import LineDebugger.Proofs.Debuggee.Loss
import LineDebugger.Session.Run
import Mathlib.Data.List.Forall2

namespace LineDebugger

open Connection

/-!
# Every event is reported

An event set may have suspended the debuggee, and then nobody but the session can let it go on.
So what the set says has to reach the session whole: as many events as there were, in their
order, and each as what it was.  A halt that came out as something else would be passed over.

To report a halt, three things are looked up, and all of these lookups may fail.  The ids and the
code index do not depend on them.  `resilience` is what a computation owes that can do without:
it fails only if the debuggee is gone, and it waits only if a command has no reply.  A lookup
whose failure is tolerated is such a computation, and so is all that is put together from them.
-/

/-- Nothing has happened that concerns the session. -/
def Wire.EventDetails.Quiet : Wire.EventDetails -> Prop
  | .machineStart _ | .threadStart _ | .threadDeath _ | .unknown _ => True
  | _ => False

namespace Debuggee

/-- The location is at the place: the same class, method and code index. -/
structure Located (place : Wire.Location) (location : Location) : Prop where
  classId : location.classId = place.classId
  methodId : location.methodId = place.methodId
  codeIndex : location.codeIndex = place.index

/-- The event is reported as what it is. -/
inductive Reported (event : Wire.Event) : TargetEvent -> Prop
  | breakpoint {thread : UInt64} {place : Wire.Location} {location : Location}
      (details : event.details = .breakpoint thread place) (located : Located place location) :
      Reported event (.breakpointHit event.request thread location)
  | step {thread : UInt64} {place : Wire.Location} {location : Location}
      (details : event.details = .step thread place) (located : Located place location) :
      Reported event (.stepCompleted event.request thread location)
  | classPrepare {thread type : UInt64} {typeTag : UInt8} {signature : String} {status : Int32}
      (details : event.details = .classPrepare thread typeTag type signature status) :
      Reported event (.classPrepared thread type (TypeName.ofSignature signature))
  | machineDeath (details : event.details = .machineDeath) : Reported event .disconnected
  | quiet (quiet : event.details.Quiet) : Reported event .other

namespace Remote

variable {τ α β : Type} {link : Link τ}

/-! ## Going on without an answer -/

/-- Some command has no reply. -/
def Unanswered (log : List Exchange) : Prop :=
  exists exchange, exchange ∈ log ∧ exchange.outcome = .unfinished

/-- A computation that waits only if some command has no reply. -/
def patience : Exits (Remote τ) Exchange TargetError where
  failed _ _ _ := True
  unfinished := Unanswered

/-- A computation that moreover fails only if the debuggee is gone. -/
def resilience : Exits (Remote τ) Exchange TargetError where
  failed error _ _ := error.isDisconnect = true
  unfinished := Unanswered

theorem lookUp_patient (lookup : Lookup) (past : List Exchange) (state : Remote τ) :
    (lookup.act link).Reaches patience (fun _ _ _ => True) past state := by
  unfold Act.Reaches
  cases recalled : lookup.find state.caches with
  | some known =>
      rw [Lookup.act_of_recalled recalled]
      trivial
  | none =>
      rw [Lookup.act_of_forgotten recalled]
      cases came : lookup.call.verdict (link.send lookup.call.command state.link).outcome with
      | ok answer => trivial
      | failed fault => trivial
      | unfinished =>
          exact ⟨_, List.mem_append_right _ (List.mem_singleton_self _),
            Wire.Call.unfinished_of_verdict came⟩

theorem tolerate_lookUp (lookup : Lookup) (past : List Exchange) (state : Remote τ) :
    (tolerate (lookup.act link)).Reaches resilience (fun _ _ _ => True) past state := by
  apply tolerate_reaches (lookUp_patient lookup past state)
  · exact fun error log after _ gone => gone
  · exact fun error log after _ _ => trivial
  · exact fun log waits => waits
  · exact fun value log after _ => trivial

/-! ## Events -/

/-- Names and lines may be missing from a description, but it is of the right place. -/
theorem describe_located (place : Wire.Location) (past : List Exchange) (state : Remote τ) :
    (describe link place).Reaches resilience (fun location _ _ => Located place location)
      past state := by
  refine (tolerate_lookUp (.typeName place.classId) past state).bind fun _ log between _ => ?_
  refine (tolerate_lookUp (.methods place.classId) log between).bind fun _ log between _ => ?_
  refine (tolerate_lookUp (.lineTable place.classId place.methodId) log between).bind
    fun _ log after _ => ?_
  exact Act.reaches_pure.mpr ⟨rfl, rfl, rfl⟩

theorem convertEvent_reported (event : Wire.Event) (past : List Exchange) (state : Remote τ) :
    (convertEvent link event).Reaches resilience (fun converted _ _ => Reported event converted)
      past state := by
  unfold convertEvent
  cases details : event.details with
  | classPrepare thread typeTag type signature status =>
      exact Act.reaches_bind.mpr (Act.reaches_update.mpr
        (Act.reaches_pure.mpr (.classPrepare details)))
  | breakpoint thread place =>
      refine (describe_located place past state).bind fun location log after located => ?_
      exact Act.reaches_pure.mpr (.breakpoint details located)
  | step thread place =>
      refine (describe_located place past state).bind fun location log after located => ?_
      exact Act.reaches_pure.mpr (.step details located)
  | machineDeath => exact Act.reaches_pure.mpr (.machineDeath details)
  | _ =>
      have quiet : event.details.Quiet := by
        rw [details]
        trivial
      exact Act.reaches_pure.mpr (.quiet quiet)

/-- Since the conversion of an event fails only if the debuggee is gone, no event is given up. -/
theorem reportEvent_reported (event : Wire.Event) (past : List Exchange) (state : Remote τ) :
    (reportEvent link event).Reaches resilience (fun converted _ _ => Reported event converted)
      past state := by
  have tolerated : (tolerate (convertEvent link event)).Reaches resilience
      (fun outcome _ _ => exists converted, outcome = some converted ∧ Reported event converted)
      past state := by
    apply tolerate_reaches (convertEvent_reported event past state)
    · exact fun error log after gone _ => gone
    · intro error log after gone spared
      cases gone.symm.trans spared
    · exact fun log waits => waits
    · exact fun converted log after reported => ⟨converted, rfl, reported⟩
  refine tolerated.bind fun outcome log after found => ?_
  rcases found with ⟨converted, rfl, reported⟩
  exact Act.reaches_pure.mpr reported

/-- What holds of each result holds of the results one by one, as long as what it takes is kept. -/
theorem each_keeps {f : α -> RemoteAct τ β} {kept : Remote τ -> Prop} {relation : α -> β -> Prop}
    {exits : Exits (Remote τ) Exchange TargetError}
    (reaches : forall value past state, kept state ->
      (f value).Reaches exits (fun result _ after => kept after ∧ relation value result) past state)
    (values : List α) (past : List Exchange) {state : Remote τ} (start : kept state) :
    (Act.each f values).Reaches exits
      (fun results _ after => kept after ∧ List.Forall₂ relation values results) past state := by
  induction values generalizing past state with
  | nil => exact Act.reaches_pure.mpr ⟨start, .nil⟩
  | cons value values ih =>
      refine (reaches value past state start).bind fun result log between ⟨now, related⟩ => ?_
      refine (ih log now).bind fun results log after ⟨last, others⟩ => ?_
      exact Act.reaches_pure.mpr ⟨last, .cons related others⟩

theorem each_reaches {f : α -> RemoteAct τ β} {relation : α -> β -> Prop}
    {exits : Exits (Remote τ) Exchange TargetError}
    (reaches : forall value past state,
      (f value).Reaches exits (fun result _ _ => relation value result) past state)
    (values : List α) (past : List Exchange) (state : Remote τ) :
    (Act.each f values).Reaches exits
      (fun results _ _ => List.Forall₂ relation values results) past state := by
  have kept : (Act.each f values).Reaches exits
      (fun results _ _ => True ∧ List.Forall₂ relation values results) past state :=
    each_keeps (fun value past state _ =>
      (reaches value past state).widen fun _ _ _ related => ⟨trivial, related⟩) values past trivial
  exact kept.widen fun _ _ _ related => related.2

/-- The batch is that of the set: suspended if the set says so, and every event in its place. -/
structure Conveys (set : Wire.EventSet) (batch : EventBatch) : Prop where
  suspended : batch.suspended = (set.suspendPolicy != 0)
  events : List.Forall₂ Reported set.events batch.events

theorem report_conveys (link : Link τ) (set : Wire.EventSet) (past : List Exchange)
    (state : Remote τ) :
    (report link set).Reaches resilience (fun batch _ _ => Conveys set batch) past state := by
  refine (each_reaches reportEvent_reported set.events past state).bind
    fun events log after reported => ?_
  exact Act.reaches_pure.mpr ⟨rfl, reported⟩

/-! ## Batches -/

theorem notAvailable_of_isDisconnect {error : TargetError} (gone : error.isDisconnect = true) :
    exists reason, error = .notAvailable reason := by
  cases error with
  | notAvailable reason => exact ⟨reason, rfl⟩
  | noSuchElement reason => cases gone
  | other reason => cases gone

/-- A set that is received is conveyed, unless the debuggee is lost or leaves a command without a
reply in the meantime.  Without a set there is nothing to convey, and there is no failure but the
loss of the debuggee. -/
structure Delivers (link : Link τ) (state : Remote τ)
    (result : Progress (Remote τ) Exchange TargetError EventBatch) : Prop where
  conveyed : forall set, (link.receive state.link).1 = .ok (some set) ->
    (exists batch, result.outcome = .ok batch ∧ Conveys set batch)
      ∨ (exists reason, result.outcome = .failed (.notAvailable reason)
        ∧ exists exchange, exchange ∈ result.log ∧ exchange.Lost)
      ∨ (result.outcome = .unfinished ∧ Unanswered result.log)
  closed : (link.receive state.link).1 = .ok none ->
    result.outcome = .failed (.notAvailable "event channel closed")
  waiting : (link.receive state.link).1 = .unfinished -> result.outcome = .unfinished
  loss : forall error, result.outcome = .failed error -> exists reason, error = .notAvailable reason

/-- What is left to do with a set either conveys it or shows why not. -/
theorem report_outcome (link : Link τ) (set : Wire.EventSet) (state : Remote τ) :
    (exists batch, (report link set state).outcome = .ok batch ∧ Conveys set batch)
      ∨ (exists reason, (report link set state).outcome = .failed (.notAvailable reason)
        ∧ exists exchange, exchange ∈ (report link set state).log ∧ exchange.Lost)
      ∨ ((report link set state).outcome = .unfinished
        ∧ Unanswered (report link set state).log) := by
  have owed := report_conveys link set [] state
  have composed : Composed link (fun _ => True) (fun _ _ => True) (report link set) :=
    Composed.report fun _ _ _ _ _ => trivial
  have truthful := (Candid.of_composed composed).truthful state
  unfold Act.Reaches at owed
  rw [List.nil_append] at owed
  cases came : (report link set state).outcome with
  | ok batch =>
      rw [came] at owed
      exact .inl ⟨batch, rfl, owed⟩
  | failed error =>
      rw [came] at owed
      rcases notAvailable_of_isDisconnect owed with ⟨reason, rfl⟩
      rcases truthful.reported.mp ⟨reason, came⟩ with lost | impossible
      · exact .inr (.inl ⟨reason, rfl, lost⟩)
      · exact impossible.elim
  | unfinished =>
      rw [came] at owed
      exact .inr (.inr ⟨rfl, owed⟩)

theorem nextEvents_delivers (link : Link τ) (state : Remote τ) :
    Delivers link state (nextEvents link state) := by
  rcases nextEvents_cases link state with ⟨set, came, same⟩ | ⟨closed, same⟩ | ⟨waits, same⟩
  · rw [same]
    have outcomes := report_outcome link set (received link state)
    refine ⟨?_, fun none => by simp [came] at none, fun waits => by simp [came] at waits, ?_⟩
    · intro other again
      cases came.symm.trans again
      exact outcomes
    · intro error failed
      rcases outcomes with ⟨batch, ok, -⟩ | ⟨reason, lost, -⟩ | ⟨unfinished, -⟩
      · cases ok.symm.trans failed
      · cases lost.symm.trans failed
        exact ⟨reason, rfl⟩
      · cases unfinished.symm.trans failed
  · rw [same]
    refine ⟨fun set came => by simp [closed] at came, fun _ => rfl,
      fun waits => by simp [closed] at waits, ?_⟩
    intro error failed
    cases failed
    exact ⟨_, rfl⟩
  · rw [same]
    refine ⟨fun set came => by simp [waits] at came, fun closed => by simp [waits] at closed,
      fun _ => rfl, ?_⟩
    intro error failed
    cases failed

end Remote
end Debuggee

/-! ## The session that hears of it -/

namespace Session

open Debuggee

variable {σ ε : Type}

/-- Drain batches of events, and take every failure to wait for one as the loss of the debuggee. -/
def drain (target : Target σ) : (rounds : Nat) -> Dialogue σ ε SessionEnd
  | 0 => Act.wait
  | rounds + 1 => do
      match ← (Dialogue.ask target .nextEvents).attempt with
      | .ok batch =>
          match ← dispatchBatch target batch with
          | some reason => return reason
          | none => drain target rounds
      | .error _ => connectionLost

/-- If there is no failure but the loss, a session never waits again after one. -/
theorem run_eq_drain {target : Target σ}
    (loss : forall state error, (target.respond .nextEvents state).outcome = .failed error ->
      error.isDisconnect = true) (rounds : Nat) :
    (run target rounds : Dialogue σ ε SessionEnd) = drain target rounds := by
  induction rounds with
  | zero => rfl
  | succ rounds ih =>
      funext situation
      rw [run, drain, ih]
      simp only [bind, Act.andThen, Act.attempt, Dialogue.ask]
      cases came : (target.respond .nextEvents situation.target).outcome with
      | ok batch => rfl
      | failed error => simp only [loss _ error came, if_true]
      | unfinished => rfl

end Session

namespace Debuggee

open Remote in
/-- Whatever is remembered and whatever comes of the commands, an event set reaches the session
whole, or the debuggee is lost, or it leaves a command without a reply.  There is no other failure,
so a session on such a target never waits for events again after one. -/
theorem every_event_is_reported {τ : Type} (link : Link τ) (chainLimit : Nat) :
    (forall state, Delivers link state ((target link chainLimit).respond .nextEvents state))
      ∧ forall (ε : Type) (rounds : Nat),
        (Session.run (target link chainLimit) rounds :
          Session.Dialogue (Remote τ) ε Session.SessionEnd)
          = Session.drain (target link chainLimit) rounds := by
  refine ⟨nextEvents_delivers link, fun ε rounds => Session.run_eq_drain ?_ rounds⟩
  intro state error failed
  rcases (nextEvents_delivers link state).loss error failed with ⟨reason, rfl⟩
  rfl

/-! ## A halt in code that nobody can name -/

/-- A link on which this set is received and no command succeeds. -/
def nameless (set : Wire.EventSet) : Link Unit where
  send _ state := ⟨.ok ⟨0, 101, []⟩, some 0, state⟩
  receive state := (.ok (some set), state)

open Remote in
/-- A breakpoint is hit, a class is prepared, and a thread starts, and nothing can be looked up. -/
theorem nameless_halt_is_reported :
    let set : Wire.EventSet := ⟨2, [⟨2, 5, .breakpoint 1 ⟨1, 26, 27, 3⟩⟩,
      ⟨8, 4, .classPrepare 1 1 7 "LMain;" 7⟩, ⟨6, 0, .threadStart 9⟩]⟩
    ((nameless set).receive ()).1 = .ok (some set)
      ∧ Delivers (nameless set) ⟨(), {}⟩
        ((target (nameless set) 1).respond .nextEvents ⟨(), {}⟩)
      ∧ ((target (nameless set) 1).respond .nextEvents ⟨(), {}⟩).outcome = .ok ⟨true,
        [.breakpointHit 5 1 ⟨26, "1a", 27, "1b", none, 3⟩, .classPrepared 1 7 "Main", .other]⟩ := by
  intro set
  exact ⟨rfl, (every_event_is_reported (nameless set) 1).1 ⟨(), {}⟩, rfl⟩

end Debuggee
end LineDebugger
