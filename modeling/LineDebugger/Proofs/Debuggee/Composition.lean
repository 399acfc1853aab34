import LineDebugger.Proofs.Contract
import LineDebugger.Proofs.Debuggee.Lookup

namespace LineDebugger

namespace Debuggee
namespace Remote

open Connection

/-!
# What the answers of a target are composed of

However a target behind a link comes to an answer, it does so by putting calls, by looking
things up, by noting the names of classes that it is told, and by going on without what it
could not find out.  `Composed` says this of a computation.  It is established here once,
for everything that the target does, and what is true of all composed computations is true
of all answers.

Two things are kept open: which calls are put, and which names are noted.  The receipt of an
event set is not among the parts.  It comes first in the answer that begins with it, and the
rest of that answer is composed.
-/

variable {τ α β : Type}

/-! ## One computation after another, and one without whose answer it goes on -/

section Steps

/-- What is made of an outcome by someone who goes on without an answer. -/
def tolerated : Outcome TargetError α -> Outcome TargetError (Option α)
  | .ok value => .ok (some value)
  | .failed error => if error.isDisconnect then .failed error else .ok none
  | .unfinished => .unfinished

/-- To go on without an answer has no effect on what is done to get it. -/
theorem tolerate_eq (act : RemoteAct τ α) (state : Remote τ) :
    tolerate act state
      = ⟨tolerated (act state).outcome, (act state).log, (act state).state⟩ := by
  unfold tolerate
  simp only [bind, Act.andThen, Act.attempt]
  cases (act state).outcome with
  | ok value => simp only [pure, Act.done, List.append_nil, tolerated]
  | failed error =>
      cases gone : error.isDisconnect <;>
        simp [gone, pure, Act.done, Act.fail, List.append_nil, tolerated]
  | unfinished => rfl

/-- To change a value at the end has no effect on what is done before. -/
theorem bind_pure_eq {act : RemoteAct τ α} (f : α -> β) (state : Remote τ) :
    (act >>= fun value => pure (f value)) state
      = ⟨(act state).outcome.map f, (act state).log, (act state).state⟩ := by
  cases came : (act state).outcome with
  | ok value =>
      rw [Act.bind_of_ok came]
      simp only [pure, Act.done, List.append_nil, Outcome.map]
  | failed error => rw [Act.bind_of_failed came, Outcome.map]
  | unfinished => rw [Act.bind_of_unfinished came, Outcome.map]

/-- Once the first element has been treated, the others are. -/
theorem each_cons {f : α -> RemoteAct τ β} {first : α} {result : β} {state : Remote τ}
    (treated : (f first state).outcome = .ok result) (others : List α) :
    Act.each f (first :: others) state
      = ⟨(Act.each f others (f first state).state).outcome.map (result :: ·),
          (f first state).log ++ (Act.each f others (f first state).state).log,
          (Act.each f others (f first state).state).state⟩ := by
  rw [Act.each, Act.bind_of_ok treated, bind_pure_eq]

/-- All elements have been treated if the first one has been and then the others. -/
theorem each_cons_eq_ok_iff {f : α -> RemoteAct τ β} {first : α} {others : List α}
    {results : List β} {state : Remote τ} :
    (Act.each f (first :: others) state).outcome = .ok results ↔
      exists result later, (f first state).outcome = .ok result ∧
        (Act.each f others (f first state).state).outcome = .ok later ∧
        result :: later = results := by
  constructor
  · intro treated
    rcases Act.ok_of_bind treated with ⟨result, own, between, ran, -⟩
    have came : (f first state).outcome = .ok result := congrArg Progress.outcome ran
    rw [each_cons came] at treated
    rcases Outcome.map_eq_ok_iff.mp treated with ⟨later, more, same⟩
    exact ⟨result, later, came, more, same⟩
  · rintro ⟨result, later, came, more, same⟩
    rw [each_cons came]
    exact Outcome.map_eq_ok_iff.mpr ⟨later, more, same⟩

end Steps

/-- What is made of the answer to the debugger's leave.  It comes too late for a debuggee that is
gone, and that is no failure. -/
def detached : Outcome TargetError Unit -> Outcome TargetError Unit
  | .failed error => if error.isDisconnect then .ok () else .failed error
  | outcome => outcome

theorem detach_eq (link : Link τ) (state : Remote τ) :
    detach link state = ⟨detached (call link .dispose state).outcome,
      (call link .dispose state).log, (call link .dispose state).state⟩ := by
  unfold detach
  simp only [bind, Act.andThen, Act.attempt]
  cases (call link .dispose state).outcome with
  | ok answer => simp only [pure, Act.done, List.append_nil, detached]
  | failed error =>
      cases gone : error.isDisconnect <;>
        simp [gone, pure, Act.done, Act.fail, List.append_nil, detached]
  | unfinished => rfl

/-! ## Composed computations -/

/-- The computations that consist of calls, lookups and notes.  A failure of their own is
never the loss of the debuggee. -/
inductive Composed (link : Link τ) (asks : Wire.Call -> Prop)
    (notes : UInt64 -> String -> Prop) : {α : Type} -> RemoteAct τ α -> Prop where
  | done {α : Type} (value : α) : Composed link asks notes (pure value)
  | fail {α : Type} {error : TargetError} (recoverable : error.isDisconnect = false) :
      Composed link asks notes (Act.fail error : RemoteAct τ α)
  | wait {α : Type} : Composed link asks notes (Act.wait : RemoteAct τ α)
  | andThen {α β : Type} {first : RemoteAct τ α} {next : α -> RemoteAct τ β}
      (early : Composed link asks notes first)
      (late : forall value, Composed link asks notes (next value)) :
      Composed link asks notes (first >>= next)
  | tolerate {α : Type} {act : RemoteAct τ α} (composed : Composed link asks notes act) :
      Composed link asks notes (tolerate act)
  | ask {question : Wire.Call} (asked : asks question) :
      Composed link asks notes (call link question)
  | lookUp (lookup : Lookup) : Composed link asks notes (lookup.act link)
  | note {type : UInt64} {name : String} (noted : notes type name) :
      Composed link asks notes (remember (storeTypeName type name))

/-- A prepared class tells its name. -/
def Tells (event : Wire.Event) (type : UInt64) (signature : String) : Prop :=
  exists thread typeTag status, event.details = .classPrepare thread typeTag type signature status

/-- What is left to do once an event set has been received. -/
def report (link : Link τ) (set : Wire.EventSet) : RemoteAct τ EventBatch := do
  let events ← Act.each (reportEvent link) set.events
  return { suspended := set.suspends, events }

/-- The state after the link has been asked for an event set. -/
def received (link : Link τ) (state : Remote τ) : Remote τ :=
  { state with link := (link.receive state.link).2 }

/-- The next batch depends on what is received. -/
theorem nextEvents_eq (link : Link τ) (state : Remote τ) :
    nextEvents link state = match (link.receive state.link).1 with
      | .ok (some set) => report link set (received link state)
      | .ok none => ⟨.failed (.notAvailable "event channel closed"), [], received link state⟩
      | _ => ⟨.unfinished, [], received link state⟩ := by
  unfold nextEvents
  simp only [bind, Act.andThen, Link.nextEvents, received]
  rcases link.receive state.link with ⟨outcome, after⟩
  cases outcome with
  | ok events =>
      cases events with
      | none => rfl
      | some set => simp only [List.nil_append]; rfl
  | failed impossible => cases impossible
  | unfinished => rfl

/-- Either an event set is received, or there will never be one again, or the wait goes on. -/
theorem nextEvents_cases (link : Link τ) (state : Remote τ) :
    (exists set, (link.receive state.link).1 = .ok (some set)
        ∧ nextEvents link state = report link set (received link state))
      ∨ ((link.receive state.link).1 = .ok none
        ∧ nextEvents link state
          = ⟨.failed (.notAvailable "event channel closed"), [], received link state⟩)
      ∨ ((link.receive state.link).1 = .unfinished
        ∧ nextEvents link state = ⟨.unfinished, [], received link state⟩) := by
  rw [nextEvents_eq]
  cases came : (link.receive state.link).1 with
  | ok events =>
      cases events with
      | none => exact Or.inr (Or.inl ⟨rfl, rfl⟩)
      | some set => exact Or.inl ⟨set, rfl, rfl⟩
  | failed impossible => cases impossible
  | unfinished => exact Or.inr (Or.inr ⟨rfl, rfl⟩)

namespace Composed

variable {link : Link τ} {asks : Wire.Call -> Prop} {notes : UInt64 -> String -> Prop}

theorem each {f : α -> RemoteAct τ β} {values : List α}
    (composed : forall value, value ∈ values -> Composed link asks notes (f value)) :
    Composed link asks notes (Act.each f values) := by
  induction values with
  | nil => exact .done []
  | cons value values ih =>
      refine .andThen (composed value (List.mem_cons_self ..)) fun result => ?_
      refine .andThen (ih fun other member => ?_) fun results => .done (result :: results)
      exact composed other (List.mem_cons_of_mem _ member)

theorem typeName (type : UInt64) : Composed link asks notes (Remote.typeName link type) :=
  .lookUp (.typeName type)

theorem lineTable (type method : UInt64) :
    Composed link asks notes (Remote.lineTable link type method) :=
  .lookUp (.lineTable type method)

theorem describe (place : Wire.Location) :
    Composed link asks notes (Remote.describe link place) := by
  refine .andThen (.tolerate (typeName _)) fun className => ?_
  refine .andThen (.tolerate (.lookUp (.methods _))) fun methodList => ?_
  exact .andThen (.tolerate (lineTable _ _)) fun table => .done _

/-! ## Values -/

section Explaining

variable (explaining : forall question : Wire.Call, question.explains = true -> asks question)
include explaining

theorem convertReference (tag : Wire.TypeTag) (id : UInt64) :
    Composed link asks notes (Remote.convertReference link tag id) := by
  have objects : Composed link asks notes (do
      let typeId : UInt64 ← call link (.objectType id)
      let name ← Remote.typeName link typeId
      return Value.object { id, typeId, typeName := name }) := by
    refine .andThen (.ask (explaining _ rfl)) fun typeId => ?_
    exact .andThen (typeName _) fun name => .done _
  cases tag with
  | string => exact .andThen (.ask (explaining _ rfl)) fun contents => .done _
  | array =>
      refine .andThen (.ask (explaining _ rfl)) fun type => ?_
      refine .andThen (typeName _) fun arrayName => ?_
      exact .andThen (.ask (explaining _ rfl)) fun length => .done _
  | _ => exact objects

theorem convert (value : Wire.Value) : Composed link asks notes (Remote.convert link value) := by
  unfold Remote.convert
  cases value.data with
  | object id =>
      dsimp only
      split
      · exact .done _
      · exact convertReference explaining value.tag id
  | _ => exact .done _

theorem showVariable (entry : Wire.Variable × Wire.Value) :
    Composed link asks notes (Remote.showVariable link entry) :=
  .andThen (convert explaining _) fun _ => .done _

end Explaining

section Inspecting

variable (inspecting : forall question : Wire.Call, question.inspects = true -> asks question)
include inspecting

theorem explaining (question : Wire.Call) (explains : question.explains = true) : asks question :=
  inspecting question (Wire.Call.inspects_of_explains explains)

/-! ## Answers about frames, variables and fields -/

theorem frames (thread : UInt64) (limit : Option Nat) :
    Composed link asks notes (Remote.frames link thread limit) := by
  refine .andThen (.ask (inspecting _ rfl)) fun all => each fun frame _ => ?_
  exact .andThen (describe _) fun location => .done _

theorem visibleVariables (thread : UInt64) (frame : StackFrame) :
    Composed link asks notes (Remote.visibleVariables link thread frame) := by
  refine .andThen (.lookUp (.variableTable _ _)) fun table => ?_
  split
  · exact .done _
  · refine .andThen (.ask (inspecting _ rfl)) fun values => each fun entry _ => ?_
    exact showVariable (explaining inspecting) entry

theorem readField (object : ObjectRef) (type : UInt64) (field : Wire.FieldInfo) :
    Composed link asks notes (Remote.readField link object type field) := by
  unfold Remote.readField
  dsimp only
  split
  all_goals
    refine .andThen (.ask (inspecting _ rfl)) fun values => ?_
    cases values with
    | nil => exact .fail rfl
    | cons value _ => exact convert (explaining inspecting) value

/-- The search for a field is composed, however long the chain may get. -/
theorem fieldInChain (object : ObjectRef) (name : String) (type : UInt64) (chainLimit : Nat) :
    Composed link asks notes (Remote.fieldInChain link object name type chainLimit) := by
  induction chainLimit generalizing type with
  | zero => exact .wait
  | succ chainLimit ih =>
      refine .andThen (.lookUp (.fields type)) fun declared => ?_
      split
      · exact readField inspecting object type _
      · refine .andThen (.ask (inspecting _ rfl)) fun parent => ?_
        cases parent with
        | none => exact .fail rfl
        | some parent => exact ih parent

theorem arrayElement (array : ArrayRef) (index : Nat) :
    Composed link asks notes (Remote.arrayElement link array index) := by
  unfold Remote.arrayElement
  split
  · exact .fail rfl
  · refine .andThen (.ask (inspecting _ rfl)) fun values => ?_
    cases values with
    | nil => exact .fail rfl
    | cons value _ => exact convert (explaining inspecting) value

theorem arrayValues (array : ArrayRef) :
    Composed link asks notes (Remote.arrayValues link array) := by
  unfold Remote.arrayValues
  split
  · exact .done _
  · split
    · exact .fail rfl
    · refine .andThen (.ask (inspecting _ rfl)) fun values => each fun value _ => ?_
      exact convert (explaining inspecting) value

end Inspecting

/-! ## Answers about lines and events -/

theorem locationInMethod (classId : UInt64) (line : Int32) (method : Wire.MethodInfo) :
    Composed link asks notes (Remote.locationInMethod link classId line method) := by
  refine .andThen (.tolerate (lineTable _ _)) fun table => ?_
  split
  · exact .done _
  · exact .andThen (describe _) fun location => .done _

theorem locationsOfLine (classId : UInt64) (line : UInt32) :
    Composed link asks notes (Remote.locationsOfLine link classId line) := by
  unfold Remote.locationsOfLine
  split
  · exact .fail rfl
  · refine .andThen (.lookUp (.methods classId)) fun methodList => ?_
    refine .andThen (each fun method _ => locationInMethod classId _ method) fun found => ?_
    split
    · exact .fail rfl
    · exact .done _

theorem reportEvent {event : Wire.Event}
    (told : forall type signature, Tells event type signature ->
      notes type (TypeName.ofSignature signature)) :
    Composed link asks notes (Remote.reportEvent link event) := by
  refine .andThen (.tolerate ?_) fun converted => .done _
  unfold Remote.convertEvent
  cases details : event.details with
  | classPrepare thread typeTag type signature status =>
      have noted := told type signature ⟨thread, typeTag, status, details⟩
      exact .andThen (.note noted) fun _ => .done _
  | breakpoint thread place => exact .andThen (describe place) fun location => .done _
  | step thread place => exact .andThen (describe place) fun location => .done _
  | _ => exact .done _

theorem report {set : Wire.EventSet}
    (told : forall event, event ∈ set.events -> forall type signature,
      Tells event type signature -> notes type (TypeName.ofSignature signature)) :
    Composed link asks notes (Remote.report link set) :=
  .andThen (each fun event member => reportEvent (told event member)) fun _ => .done _

/-! ## Every answer -/

/-- The call that answers a request all by itself, if there is one. -/
def soleCall? : Request -> Option Wire.Call
  | .watchClassPrepare pattern => some (.setClassPrepare pattern .all)
  | .enableBreakpoint location => some (.setBreakpoint (position location) .all)
  | .deleteBreakpoint id => some (.clearBreakpoint id)
  | .createStep thread scope filter =>
      some (.setStep thread Wire.StepShape.line (depth scope) (some filter) .all)
  | .deleteStep id => some (.clearStep id)
  | .resume => some .resumeAll
  | _ => none

/-- Every answer is composed, but for that which begins with the receipt of an event set, and
the release of the debuggee, which makes light of its loss. -/
theorem respond
    (inspecting : forall question : Wire.Call, question.inspects = true -> asks question)
    (chainLimit : Nat) {request : Request}
    (sole : forall question, soleCall? request = some question -> asks question)
    (listens : request.kind ≠ .nextEvents) (stays : request.kind ≠ .detach) :
    Composed link asks notes ((target link chainLimit).respond request) := by
  cases request with
  | nextEvents => exact absurd rfl listens
  | detach => exact absurd rfl stays
  | locationsOfLine classId line => exact locationsOfLine classId line
  | frames thread limit => exact frames inspecting thread limit
  | visibleVariables thread frame => exact visibleVariables inspecting thread frame
  | fieldValue object field => exact fieldInChain inspecting object field _ chainLimit
  | arrayElement array index => exact arrayElement inspecting array index
  | arrayValues array => exact arrayValues inspecting array
  | _ => exact .ask (sole _ rfl)

/-- So there are two requests of a kind of their own, and the answers to all others are
composed. -/
theorem respond_cases
    (inspecting : forall question : Wire.Call, question.inspects = true -> asks question)
    (chainLimit : Nat) (request : Request)
    (sole : forall question, soleCall? request = some question -> asks question) :
    request = .nextEvents ∨ request = .detach
      ∨ Composed link asks notes ((target link chainLimit).respond request) := by
  by_cases listens : request.kind = .nextEvents
  · cases request <;> first | exact Or.inl rfl | cases listens
  · by_cases leaves : request.kind = .detach
    · cases request <;> first | exact Or.inr (Or.inl rfl) | cases leaves
    · exact Or.inr (Or.inr (respond inspecting chainLimit sole listens leaves))

/-! ## What is kept -/

/-- What is kept by the parts of a composed computation is kept by the whole. -/
theorem preserves (kept : Remote τ -> Prop)
    (asking : forall question, asks question -> forall state, kept state ->
      kept (call link question state).state)
    (looking : forall (lookup : Lookup) state, kept state -> kept (lookup.act link state).state)
    (noting : forall type name, notes type name -> forall state, kept state ->
      kept { state with caches := storeTypeName type name state.caches })
    {act : RemoteAct τ α} (composed : Composed link asks notes act) :
    forall state, kept state -> kept (act state).state := by
  induction composed with
  | done | fail | wait => exact fun state start => start
  | andThen _ _ early late =>
      intro state
      exact Act.bind_stretch (fun state _ next => kept state -> kept next)
        (fun first second start => second (first start)) (early state)
        fun value _ next _ => late value next
  | tolerate _ ih =>
      intro state start
      rw [tolerate_eq]
      exact ih state start
  | ask asked => exact asking _ asked
  | lookUp lookup => exact looking lookup
  | note noted => exact noting _ _ noted

/-- What every command keeps of a link, a composed computation keeps. -/
theorem keeps (kept : τ -> Prop)
    (sends : forall question : Wire.Call, asks question ∨ question.isLookup = true ->
      forall state, kept state -> kept (link.send question.command state).link)
    {act : RemoteAct τ α} (composed : Composed link asks notes act) {state : Remote τ}
    (start : kept state.link) : kept (act state).state.link := by
  refine preserves (fun state => kept state.link) ?_ ?_ ?_ composed state start
  · intro question asked state start
    rw [call_eq]
    exact sends _ (Or.inl asked) _ start
  · intro lookup state start
    cases recalled : lookup.find state.caches with
    | some known =>
        rw [Lookup.act_of_recalled recalled]
        exact start
    | none =>
        rw [Lookup.act_of_forgotten recalled]
        exact sends _ (Or.inr (by cases lookup <;> rfl)) _ start
  · exact fun type name _ state start => start

/-- The commands of a composed computation are those of its calls and of lookups. -/
theorem marks (allowed : Wire.Command -> Prop)
    (sends : forall question : Wire.Call, asks question ∨ question.isLookup = true ->
      allowed question.command)
    {act : RemoteAct τ α} (composed : Composed link asks notes act) (state : Remote τ) :
    forall exchange, exchange ∈ (act state).log -> allowed exchange.command := by
  induction composed generalizing state with
  | done | fail | wait => exact List.forall_mem_nil _
  | andThen _ _ early late =>
      refine Act.bind_stretch (fun (_ : Remote τ) (own : List Exchange) (_ : Remote τ) =>
          forall exchange : Exchange, exchange ∈ own -> allowed exchange.command)
        ?_ (early state) fun value _ next _ => late value next
      exact fun first second => List.forall_mem_append.mpr ⟨first, second⟩
  | tolerate _ ih =>
      rw [tolerate_eq]
      exact ih state
  | ask asked =>
      rw [call_eq]
      exact List.forall_mem_singleton.mpr (sends _ (Or.inl asked))
  | lookUp lookup =>
      cases recalled : lookup.find state.caches with
      | some known =>
          rw [Lookup.act_of_recalled recalled]
          exact List.forall_mem_nil _
      | none =>
          rw [Lookup.act_of_forgotten recalled]
          exact List.forall_mem_singleton.mpr (sends _ (Or.inr (by cases lookup <;> rfl)))
  | note _ => exact List.forall_mem_nil _

/-- What is remembered is not replaced, unless it is a name and names are noted. -/
theorem recalls {act : RemoteAct τ α} (composed : Composed link asks notes act) {lookup : Lookup}
    (unnoted : forall type name, notes type name -> lookup ≠ .typeName type)
    {known : lookup.Answer} {state : Remote τ}
    (recalled : lookup.find state.caches = some known) :
    lookup.find (act state).state.caches = some known := by
  refine preserves (fun state => lookup.find state.caches = some known) ?_ ?_ ?_ composed state
    recalled
  · intro question _ state now
    rw [call_eq]
    exact now
  · intro other state now
    cases needed : other.find state.caches with
    | some found =>
        rw [Lookup.act_of_recalled needed]
        exact now
    | none =>
        have different : lookup ≠ other := by
          rintro rfl
          cases now.symm.trans needed
        rw [Lookup.act_of_forgotten needed]
        cases other.call.verdict (link.send other.call.command state.link).outcome with
        | ok answer => exact (Lookup.find_store_of_ne different _ _).trans now
        | _ => exact now
  · intro type name noted state now
    exact (Lookup.find_store_of_ne (unnoted type name noted) name state.caches).trans now

end Composed

/-! ## What comes out the same -/

/-- In all of these states the computation has the same outcome, and it leads to another of
them. -/
def Uniform (within : Remote τ -> Prop) (act : RemoteAct τ α) : Prop :=
  exists outcome, forall state, within state ->
    (act state).outcome = outcome ∧ within (act state).state

/-- In all of these states the computation leads to another of them, and it has the same outcome
unless it is left waiting and is excused for it. -/
def UniformUnless (excused within : Remote τ -> Prop) (act : RemoteAct τ α) : Prop :=
  exists outcome, forall state, within state ->
    ((act state).outcome = outcome
        ∨ ((act state).outcome = .unfinished ∧ excused (act state).state))
      ∧ within (act state).state

namespace UniformUnless

variable {excused within : Remote τ -> Prop} {link : Link τ} {asks : Wire.Call -> Prop}
  {notes : UInt64 -> String -> Prop}

/-- It makes no difference in which of the states the computation is started, if neither is
excused. -/
theorem alike {act : RemoteAct τ α} (uniform : UniformUnless excused within act)
    {one other : Remote τ} (here : within one) (there : within other) :
    within (act one).state
      ∧ (¬ ((act one).outcome = .unfinished ∧ excused (act one).state) ->
        ¬ ((act other).outcome = .unfinished ∧ excused (act other).state) ->
        (act one).outcome = (act other).outcome) := by
  rcases uniform with ⟨outcome, same⟩
  refine ⟨(same one here).2, fun ends alsoEnds => ?_⟩
  exact ((same one here).1.resolve_right ends).trans
    ((same other there).1.resolve_right alsoEnds).symm

theorem andThen {first : RemoteAct τ α} {next : α -> RemoteAct τ β}
    (early : UniformUnless excused within first)
    (late : forall value, UniformUnless excused within (next value)) :
    UniformUnless excused within (first >>= next) := by
  rcases early with ⟨outcome, early⟩
  -- A wait that is excused is the end of the whole, whatever was to come of the first part.
  have waits {state : Remote τ} (waiting : (first state).outcome = .unfinished)
      (excuse : excused (first state).state) :
      ((first >>= next) state).outcome = .unfinished
        ∧ excused ((first >>= next) state).state := by
    rw [Act.bind_of_unfinished waiting]
    exact ⟨rfl, excuse⟩
  have stays {state : Remote τ} (waiting : (first state).outcome = .unfinished)
      (start : within state) : within ((first >>= next) state).state := by
    rw [Act.bind_of_unfinished waiting]
    exact (early state start).2
  cases outcome with
  | ok value =>
      rcases late value with ⟨final, late⟩
      refine ⟨final, fun state start => ?_⟩
      rcases early state start with ⟨came | ⟨waiting, excuse⟩, between⟩
      · rw [Act.bind_of_ok came]
        exact late _ between
      · exact ⟨.inr (waits waiting excuse), stays waiting start⟩
  | failed error =>
      refine ⟨.failed error, fun state start => ?_⟩
      rcases early state start with ⟨came | ⟨waiting, excuse⟩, after⟩
      · rw [Act.bind_of_failed came]
        exact ⟨.inl rfl, after⟩
      · exact ⟨.inr (waits waiting excuse), stays waiting start⟩
  | unfinished =>
      refine ⟨.unfinished, fun state start => ?_⟩
      rcases early state start with ⟨came | ⟨came, -⟩, after⟩ <;>
        rw [Act.bind_of_unfinished came] <;> exact ⟨.inl rfl, after⟩

/-- Whatever is composed of what comes out the same comes out the same. -/
theorem of_composed
    (asking : forall question, asks question -> UniformUnless excused within (call link question))
    (looking : forall lookup : Lookup, UniformUnless excused within (lookup.act link))
    (noting : forall type name, notes type name ->
      UniformUnless excused within (remember (storeTypeName type name) : RemoteAct τ Unit))
    {act : RemoteAct τ α} (composed : Composed link asks notes act) :
    UniformUnless excused within act := by
  induction composed with
  | done value => exact ⟨.ok value, fun state start => ⟨.inl rfl, start⟩⟩
  | @fail _ error _ => exact ⟨.failed error, fun state start => ⟨.inl rfl, start⟩⟩
  | wait => exact ⟨.unfinished, fun state start => ⟨.inl rfl, start⟩⟩
  | andThen _ _ early late => exact early.andThen late
  | tolerate _ ih =>
      rcases ih with ⟨outcome, same⟩
      refine ⟨tolerated outcome, fun state start => ?_⟩
      rcases same state start with ⟨came | ⟨waiting, excuse⟩, after⟩
      · rw [tolerate_eq, came]
        exact ⟨.inl rfl, after⟩
      · rw [tolerate_eq, waiting]
        exact ⟨.inr ⟨rfl, excuse⟩, after⟩
  | ask asked => exact asking _ asked
  | lookUp lookup => exact looking lookup
  | note noted => exact noting _ _ noted

end UniformUnless

namespace Uniform

variable {within : Remote τ -> Prop} {link : Link τ} {asks : Wire.Call -> Prop}
  {notes : UInt64 -> String -> Prop}

/-- Nothing is excused. -/
theorem iff_unless {act : RemoteAct τ α} :
    Uniform within act ↔ UniformUnless (fun _ => False) within act := by
  simp only [Uniform, UniformUnless, and_false, or_false]

/-- It makes no difference in which of the states the computation is started. -/
theorem alike {act : RemoteAct τ α} (uniform : Uniform within act) {one other : Remote τ}
    (here : within one) (there : within other) :
    (act one).outcome = (act other).outcome ∧ within (act one).state := by
  rcases uniform with ⟨outcome, same⟩
  exact ⟨(same one here).1.trans (same other there).1.symm, (same one here).2⟩

theorem of_composed
    (asking : forall question, asks question -> Uniform within (call link question))
    (looking : forall lookup : Lookup, Uniform within (lookup.act link))
    (noting : forall type name, notes type name ->
      Uniform within (remember (storeTypeName type name) : RemoteAct τ Unit))
    {act : RemoteAct τ α} (composed : Composed link asks notes act) : Uniform within act :=
  iff_unless.mpr (UniformUnless.of_composed
    (fun question asked => iff_unless.mp (asking question asked))
    (fun lookup => iff_unless.mp (looking lookup))
    (fun type name noted => iff_unless.mp (noting type name noted)) composed)

end Uniform
end Remote
end Debuggee
end LineDebugger
