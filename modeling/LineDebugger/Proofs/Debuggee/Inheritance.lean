import LineDebugger.Proofs.Debuggee.Outlook

namespace LineDebugger
namespace Debuggee

open Connection

/-!
# Inherited fields

A field is looked for in the class of the object, then in its superclass, and so on up to the root.
How many classes there are is the machine's affair, and nothing in the search bounds their number
but the limit that it is given.  `Ascends` is a way up that the machine describes.  If it leads to
the root within the limit, the search ends: at the first class that declares the field, or at the
root.

What is sent on the way is told by the kind of each command.  The superclasses that are asked for
are those of the classes that have been passed, each one once and in order.  Fields may be
remembered from earlier, so that for them less may be sent, but never more.
-/

variable {τ α : Type}

/-! ## The way up -/

section Classes

variable (reply : Wire.Command -> Wire.Reply)

/-- From a class up through these classes, each one the superclass of the one before it, to what
follows.  Above the root there is nothing. -/
inductive Ascends : Option UInt64 -> List UInt64 -> Option UInt64 -> Prop where
  | here {type : Option UInt64} : Ascends type [] type
  | up {type : UInt64} {parent last : Option UInt64} {types : List UInt64}
      (above : settledBy reply (.superclass type) = .ok parent)
      (others : Ascends parent types last) : Ascends (some type) (type :: types) last

/-- The class declares no field of this name. -/
def Lacks (name : String) (type : UInt64) : Prop :=
  exists declared, settledBy reply (.fields type) = .ok declared ∧
    forall field : Wire.FieldInfo, field ∈ declared -> field.name ≠ name

/-- This is the first field of this name among those that the class declares. -/
def Declares (name : String) (type : UInt64) (field : Wire.FieldInfo) : Prop :=
  exists earlier later, settledBy reply (.fields type) = .ok (earlier ++ field :: later) ∧
    field.name = name ∧ forall other : Wire.FieldInfo, other ∈ earlier -> other.name ≠ name

end Classes

section Chain

variable {reply : Wire.Command -> Wire.Reply} {start last : Option UInt64}
  {front back chain : List UInt64} {name : String}

theorem Ascends.split (ascends : Ascends reply start (front ++ back) last) :
    exists between, Ascends reply start front between ∧ Ascends reply between back last := by
  induction front generalizing start with
  | nil => exact ⟨start, .here, ascends⟩
  | cons type front inductionHypothesis =>
      cases ascends with
      | up above others =>
          obtain ⟨between, early, late⟩ := inductionHypothesis others
          exact ⟨between, .up above early, late⟩

/-- A class whose fields can be read declares the field or lacks it. -/
theorem lacks_or_declares {type : UInt64} {declared : List Wire.FieldInfo} (name : String)
    (readable : settledBy reply (.fields type) = .ok declared) :
    Lacks reply name type ∨ exists field, Declares reply name type field := by
  cases found : declared.find? fun field => field.name == name with
  | none =>
      refine Or.inl ⟨declared, readable, fun field member same => ?_⟩
      exact List.find?_eq_none.mp found field member (beq_iff_eq.mpr same)
  | some field =>
      obtain ⟨named, earlier, later, rfl, others⟩ := List.find?_eq_some_iff_append.mp found
      refine Or.inr ⟨field, earlier, later, readable, beq_iff_eq.mp named, ?_⟩
      intro other member same
      simpa [same] using others other member

/-- Where the fields of all classes can be read, the field is declared by none, or there is a first
class that declares it. -/
theorem lacking_or_first
    (readable : forall type, type ∈ chain ->
      exists declared, settledBy reply (.fields type) = .ok declared) :
    (forall type, type ∈ chain -> Lacks reply name type) ∨
      exists passed type later field, chain = passed ++ type :: later ∧
        (forall other, other ∈ passed -> Lacks reply name other) ∧
        Declares reply name type field := by
  induction chain with
  | nil => exact Or.inl (List.forall_mem_nil _)
  | cons type chain inductionHypothesis =>
      obtain ⟨⟨declared, read⟩, others⟩ := List.forall_mem_cons.mp readable
      rcases lacks_or_declares name read with lacks | ⟨field, declares⟩
      · rcases inductionHypothesis others with
          all | ⟨passed, first, later, field, rfl, lacking, declares⟩
        · exact Or.inl (List.forall_mem_cons.mpr ⟨lacks, all⟩)
        · exact Or.inr ⟨type :: passed, first, later, field, rfl,
            List.forall_mem_cons.mpr ⟨lacks, lacking⟩, declares⟩
      · exact Or.inr ⟨[], type, chain, field, rfl, List.forall_mem_nil _, declares⟩

end Chain

/-! ## What is sent on the way -/

/-- A command that asks for the fields of a class. -/
def asksFields (command : Wire.Command) : Bool := command.set == 2 && command.code == 4

/-- A command that asks for a superclass. -/
def asksSuperclass (command : Wire.Command) : Bool := command.set == 3 && command.code == 1

/-- A command that reads fields, of a class or of an object. -/
def readsFields (command : Wire.Command) : Bool :=
  command.set == 2 && command.code == 6 || command.set == 9 && command.code == 2

/-- The commands of a kind that have been sent. -/
def sent (kind : Wire.Command -> Bool) (log : List Exchange) : List Wire.Command :=
  (log.map Exchange.command).filter kind

theorem sent_append (kind : Wire.Command -> Bool) (log later : List Exchange) :
    sent kind (log ++ later) = sent kind log ++ sent kind later := by
  rw [sent, List.map_append, List.filter_append]
  rfl

theorem sent_single (kind : Wire.Command -> Bool) {exchange : Exchange} {command : Wire.Command}
    (mark : exchange.command = command) : sent kind [exchange] = [command].filter kind := by
  subst mark
  rfl

/-- The superclasses of these classes have been asked for, once and in order, and for their fields
at most once; no field has been read. -/
structure Climbs (passed : List UInt64) (log : List Exchange) : Prop where
  superclasses : sent asksSuperclass log
    = passed.map fun type => (Wire.Call.superclass type).command
  fields : (sent asksFields log).Sublist
    (passed.map fun type => (Wire.Call.fields type).command)
  values : sent readsFields log = []

theorem Climbs.append {passed others : List UInt64} {log later : List Exchange}
    (climbs : Climbs passed log) (further : Climbs others later) :
    Climbs (passed ++ others) (log ++ later) := by
  refine ⟨?_, ?_, ?_⟩
  · rw [sent_append, climbs.superclasses, further.superclasses, List.map_append]
  · rw [sent_append, List.map_append]
    exact climbs.fields.append further.fields
  · rw [sent_append, climbs.values, further.values]
    rfl

theorem Climbs.nothing : Climbs [] [] := ⟨rfl, List.Sublist.refl _, rfl⟩

/-- A command that is about something else. -/
theorem Climbs.aside {exchange : Exchange} {command : Wire.Command}
    (mark : exchange.command = command) (unclimbing : asksSuperclass command = false)
    (unsurveying : asksFields command = false) (unreading : readsFields command = false) :
    Climbs [] [exchange] := by
  have unsent {kind : Wire.Command -> Bool} (other : kind command = false) :
      sent kind [exchange] = [] := by
    have unlike : ¬ kind command = true := by rw [other]; exact Bool.false_ne_true
    rw [sent_single _ mark, List.filter_cons_of_neg unlike, List.filter_nil]
  refine ⟨unsent unclimbing, ?_, unsent unreading⟩
  rw [unsent unsurveying]
  exact List.Sublist.refl _

/-- What is sent for a lookup: its command, or nothing if the answer is remembered. -/
def Surveys (command : Wire.Command) (log : List Exchange) : Prop :=
  log = [] ∨ exists exchange : Exchange, log = [exchange] ∧ exchange.command = command

theorem Surveys.fields {type : UInt64} {asked : List Exchange}
    (surveys : Surveys (Wire.Call.fields type).command asked) :
    sent asksSuperclass asked = [] ∧
      (sent asksFields asked).Sublist [(Wire.Call.fields type).command] ∧
      sent readsFields asked = [] := by
  rcases surveys with rfl | ⟨survey, rfl, mark⟩
  · exact ⟨rfl, List.nil_sublist _, rfl⟩
  · rw [sent_single _ mark, sent_single _ mark, sent_single _ mark]
    exact ⟨rfl, List.Sublist.refl _, rfl⟩

/-- One class is passed: its fields are asked for, unless remembered, and then its superclass. -/
theorem Climbs.one {type : UInt64} {asked : List Exchange} {exchange : Exchange}
    (surveys : Surveys (Wire.Call.fields type).command asked)
    (led : exchange.command = (Wire.Call.superclass type).command) :
    Climbs [type] (asked ++ [exchange]) := by
  obtain ⟨unclimbed, surveyed, unread⟩ := surveys.fields
  refine ⟨?_, ?_, ?_⟩
  · rw [sent_append, unclimbed, sent_single _ led]
    rfl
  · rw [sent_append, sent_single _ led, ← List.append_nil (List.map _ [type])]
    exact surveyed.append (List.Sublist.refl _)
  · rw [sent_append, unread, sent_single _ led]
    rfl

namespace Remote

variable {link : Link τ} {reply : Wire.Command -> Wire.Reply} {kept : τ -> Prop}
  {state : Remote τ} {outlook : Outlook} {object : ObjectRef} {name : String}

theorem lookUp_surveys (link : Link τ) (lookup : Lookup) (state : Remote τ) :
    Surveys lookup.call.command (lookup.act link state).log := by
  cases recalled : lookup.find state.caches with
  | some held => exact Or.inl (congrArg Progress.log (Lookup.act_of_recalled recalled link))
  | none =>
      exact Or.inr ⟨_, congrArg Progress.log (Lookup.act_of_forgotten recalled link), rfl⟩

section Steps

variable (fixed : Fixed link reply kept) (faces : Faces reply kept outlook state)
include fixed faces

/-- A call sends its one command. -/
theorem call_ran (question : Wire.Call) :
    exists exchange next,
      call link question state
        = ⟨(Outcome.ofExcept (settledBy reply question)).mapError TargetError.ofFault, [exchange],
            next⟩ ∧
        exchange.command = question.command ∧ Faces reply kept outlook next := by
  obtain ⟨after, came⟩ := faces.call fixed question
  have log : (call link question state).log = [link.mark question.command state.link] :=
    congrArg Progress.log (call_eq link question state)
  refine ⟨link.mark question.command state.link, _, ?_, rfl, after⟩
  rw [← log]
  exact Act.eq_of_outcome came

/-- A lookup that is answered sends its command, or nothing. -/
theorem lookUp_ran {lookup : Lookup} {answer : lookup.Answer}
    (known : outlook lookup = .ok answer) :
    exists own next, lookup.act link state = ⟨.ok answer, own, next⟩ ∧
      Surveys lookup.call.command own ∧ Faces reply kept outlook next := by
  obtain ⟨after, came⟩ := faces.lookUp fixed lookup
  rw [known] at came
  exact ⟨_, _, Act.eq_of_outcome came, lookUp_surveys link lookup state, after⟩

end Steps

/-! ## The search, one class after the other -/

/-- The search from a class on, or its end above the root. -/
def searchFrom (link : Link τ) (object : ObjectRef) (name : String) (limit : Nat) :
    Option UInt64 -> RemoteAct τ Value
  | some type => fieldInChain link object name type limit
  | none => Act.fail (.noSuchElement ("field " ++ name ++ " in " ++ object.typeName))

theorem fieldInChain_succ (link : Link τ) (object : ObjectRef) (name : String) (type : UInt64)
    (limit : Nat) :
    fieldInChain link object name type (limit + 1) = (fields link type >>= fun declared =>
      match declared.find? fun field => field.name == name with
      | some field => readField link object type field
      | none => call link (.superclass type) >>= searchFrom link object name limit) := by
  rw [fieldInChain]
  rfl

/-- A class that lacks the field is passed, and the search goes on above it. -/
theorem climb_one (fixed : Fixed link reply kept)
    (known : forall type, outlook (.fields type) = settledBy reply (.fields type))
    (faces : Faces reply kept outlook state) {type : UInt64} {parent : Option UInt64}
    (above : settledBy reply (.superclass type) = .ok parent) (lacks : Lacks reply name type)
    (limit : Nat) :
    exists own between, Faces reply kept outlook between ∧ Climbs [type] own ∧
      fieldInChain link object name type (limit + 1) state
        = (searchFrom link object name limit parent between).after own := by
  obtain ⟨declared, readable, unnamed⟩ := lacks
  have nowhere : declared.find? (fun field => field.name == name) = none :=
    List.find?_eq_none.mpr fun field member same => unnamed field member (beq_iff_eq.mp same)
  obtain ⟨asked, looked, found, surveys, faces⟩ :=
    lookUp_ran fixed faces ((known type).trans readable)
  change fields link type state = _ at found
  obtain ⟨exchange, between, led, mark, faces⟩ := call_ran fixed faces (.superclass type)
  rw [above] at led
  refine ⟨asked ++ [exchange], between, faces, .one surveys mark, ?_⟩
  rw [fieldInChain_succ, Act.bind_ok found, nowhere, Progress.after_append]
  exact congrArg (Progress.after asked) (Act.bind_ok led _)

/-- Classes that lack the field are passed one by one. -/
theorem climb (fixed : Fixed link reply kept)
    (known : forall type, outlook (.fields type) = settledBy reply (.fields type))
    {start last : Option UInt64} {passed : List UInt64} (ascends : Ascends reply start passed last)
    (lacks : forall type, type ∈ passed -> Lacks reply name type) (limit : Nat)
    {state : Remote τ} (faces : Faces reply kept outlook state) :
    exists own between, Faces reply kept outlook between ∧ Climbs passed own ∧
      searchFrom link object name (passed.length + limit) start state
        = (searchFrom link object name limit last between).after own := by
  induction ascends generalizing state with
  | here =>
      refine ⟨[], state, faces, .nothing, ?_⟩
      rw [List.length_nil, Nat.zero_add]
      rfl
  | @up type parent last types above others inductionHypothesis =>
      obtain ⟨lacksFirst, lacksOthers⟩ := List.forall_mem_cons.mp lacks
      obtain ⟨own, between, faces, climbs, passes⟩ :=
        climb_one fixed known faces above lacksFirst (types.length + limit)
      obtain ⟨more, after, faces, further, arrives⟩ := inductionHypothesis lacksOthers faces
      refine ⟨own ++ more, after, faces, climbs.append further, ?_⟩
      rw [List.length_cons, Nat.add_right_comm, searchFrom, passes, arrives,
        Progress.after_append]

/-! ## The value of the field -/

/-- What the machine replies to the question for the value of a field: to that about the class
itself if the field is static, and else to that about the object. -/
def fieldReading (reply : Wire.Command -> Wire.Reply) (object : ObjectRef) (type : UInt64)
    (field : Wire.FieldInfo) : Except Wire.Fault (List Wire.Value) :=
  if field.isStatic then settledBy reply (.staticValues type [field.id])
  else settledBy reply (.objectValues object.id [field.id])

/-- The command that carries this question. -/
def fieldCommand (object : ObjectRef) (type : UInt64) (field : Wire.FieldInfo) : Wire.Command :=
  if field.isStatic then (Wire.Call.staticValues type [field.id]).command
  else (Wire.Call.objectValues object.id [field.id]).command

theorem sent_question {object : ObjectRef} {type : UInt64} {field : Wire.FieldInfo}
    {exchange : Exchange} (mark : exchange.command = fieldCommand object type field) :
    sent asksSuperclass [exchange] = [] ∧ sent asksFields [exchange] = [] ∧
      sent readsFields [exchange] = [fieldCommand object type field] := by
  rw [sent_single _ mark, sent_single _ mark, sent_single _ mark]
  unfold fieldCommand
  cases field.isStatic <;> exact ⟨rfl, rfl, rfl⟩

/-- What is sent for a field, from the first class on the way to the value. -/
theorem sent_to_read {passed : List UInt64} {object : ObjectRef} {type : UInt64}
    {field : Wire.FieldInfo} {walk own rest : List Exchange} {exchange : Exchange}
    (climbs : Climbs passed walk) (surveys : Surveys (Wire.Call.fields type).command own)
    (mark : exchange.command = fieldCommand object type field) (aside : Climbs [] rest) :
    sent asksSuperclass (walk ++ (own ++ ([exchange] ++ rest)))
        = passed.map (fun type => (Wire.Call.superclass type).command) ∧
      (sent asksFields (walk ++ (own ++ ([exchange] ++ rest)))).Sublist
        ((passed ++ [type]).map fun type => (Wire.Call.fields type).command) ∧
      sent readsFields (walk ++ (own ++ ([exchange] ++ rest)))
        = [fieldCommand object type field] := by
  obtain ⟨unclimbed, surveyed, unread⟩ := surveys.fields
  obtain ⟨noSuperclass, noFields, question⟩ := sent_question mark
  have silent := List.sublist_nil.mp aside.fields
  simp only [sent_append]
  refine ⟨?_, ?_, ?_⟩
  · rw [climbs.superclasses, unclimbed, noSuperclass, aside.superclasses]
    simp only [List.map_nil, List.append_nil]
  · rw [noFields, silent, List.append_nil, List.append_nil, List.map_append]
    exact climbs.fields.append surveyed
  · rw [climbs.values, unread, question, aside.values]
    rfl

/-- Put the question. -/
def readValues (link : Link τ) (object : ObjectRef) (type : UInt64) (field : Wire.FieldInfo) :
    RemoteAct τ (List Wire.Value) :=
  if field.isStatic then call link (.staticValues type [field.id])
  else call link (.objectValues object.id [field.id])

/-- What is made of the values that have been read. -/
def showFirst (link : Link τ) (name : String) : List Wire.Value -> RemoteAct τ Value
  | value :: _ => convert link value
  | [] => Act.fail (.other ("no value returned for " ++ name))

theorem readField_eq (link : Link τ) (object : ObjectRef) (type : UInt64)
    (field : Wire.FieldInfo) :
    readField link object type field
      = (readValues link object type field >>= showFirst link field.name) := by
  unfold readField readValues
  cases field.isStatic <;> rfl

/-- Whatever is sent, it is not about the fields of a class, its superclass or the values of
fields. -/
def Aside (act : RemoteAct τ α) : Prop := forall state, Climbs [] (act state).log

namespace Aside

theorem done (value : α) : Aside (pure value : RemoteAct τ α) := fun _ => .nothing

theorem fail (error : TargetError) : Aside (Act.fail error : RemoteAct τ α) := fun _ => .nothing

theorem andThen {β : Type} {first : RemoteAct τ α} {next : α -> RemoteAct τ β}
    (early : Aside first) (late : forall value, Aside (next value)) : Aside (first >>= next) :=
  fun state => Act.bind_stretch (fun _ own _ => Climbs [] own) (fun first second =>
    first.append second) (early state) fun value _ next _ => late value next

theorem ask {question : Wire.Call} (explains : question.explains = true) :
    Aside (call link question) := by
  intro state
  rw [call_eq]
  cases question <;> first | exact .aside rfl rfl rfl rfl | cases explains

theorem typeName (type : UInt64) : Aside (Remote.typeName link type) := by
  intro state
  change Climbs [] ((Lookup.typeName type).act link state).log
  rcases lookUp_surveys link (.typeName type) state with none | ⟨exchange, one, mark⟩
  · rw [none]
    exact .nothing
  · rw [one]
    exact .aside mark rfl rfl rfl

theorem convertReference (tag : Wire.TypeTag) (id : UInt64) :
    Aside (Remote.convertReference link tag id) := by
  have objects : Aside (do
      let typeId : UInt64 ← call link (.objectType id)
      let name ← Remote.typeName link typeId
      return Value.object { id, typeId, typeName := name } : RemoteAct τ Value) :=
    .andThen (.ask rfl) fun typeId => .andThen (.typeName _) fun name => .done _
  cases tag with
  | string => exact .andThen (.ask rfl) fun contents => .done _
  | array =>
      refine .andThen (.ask rfl) fun type => ?_
      exact .andThen (.typeName _) fun arrayName => .andThen (.ask rfl) fun length => .done _
  | _ => exact objects

theorem convert (value : Wire.Value) : Aside (Remote.convert link value) := by
  unfold Remote.convert
  cases value.data with
  | object id =>
      dsimp only
      split
      · exact .done _
      · exact convertReference value.tag id
  | _ => exact .done _

theorem showFirst (name : String) (values : List Wire.Value) :
    Aside (Remote.showFirst link name values) := by
  cases values with
  | nil => exact .fail _
  | cons value values => exact convert value

end Aside

/-- What is shown of a field, going by what is replied; values are looked at in one of the states
with the same to find out. -/
def shownOf (link : Link τ) (reference : Remote τ) (name : String) :
    Except Wire.Fault (List Wire.Value) -> Outcome TargetError Value
  | .ok values => (showFirst link name values reference).outcome
  | .error fault => .failed (.ofFault fault)

section Reading

variable (fixed : Fixed link reply kept)
include fixed

theorem readValues_ran (faces : Faces reply kept outlook state) (object : ObjectRef)
    (type : UInt64) (field : Wire.FieldInfo) :
    exists exchange next,
      readValues link object type field state
        = ⟨(Outcome.ofExcept (fieldReading reply object type field)).mapError TargetError.ofFault,
            [exchange], next⟩ ∧
        exchange.command = fieldCommand object type field ∧ Faces reply kept outlook next := by
  unfold readValues fieldReading fieldCommand
  split
  · exact call_ran fixed faces (.staticValues type [field.id])
  · exact call_ran fixed faces (.objectValues object.id [field.id])

theorem showFirst_alike (name : String) (values : List Wire.Value) (outlook : Outlook) :
    Uniform (Faces reply kept outlook) (showFirst link name values) := by
  have composed : Composed link (fun _ => True) (fun _ _ => False)
      (showFirst link name values) := by
    cases values with
    | nil => exact .fail rfl
    | cons value others => exact Composed.convert (fun _ _ => trivial) value
  exact Faces.uniform fixed composed

/-- A field is read by one command, and what follows is about its value. -/
theorem readField_comes {reference : Remote τ} (here : Faces reply kept outlook reference)
    (faces : Faces reply kept outlook state) (object : ObjectRef) (type : UInt64)
    (field : Wire.FieldInfo) :
    (readField link object type field state).outcome
        = shownOf link reference field.name (fieldReading reply object type field) ∧
      exists exchange rest, (readField link object type field state).log = exchange :: rest ∧
        exchange.command = fieldCommand object type field ∧ Climbs [] rest := by
  obtain ⟨exchange, next, ran, mark, faces⟩ := readValues_ran fixed faces object type field
  rw [readField_eq]
  cases reading : fieldReading reply object type field with
  | error fault =>
      rw [reading] at ran
      rw [Act.bind_failed ran]
      exact ⟨rfl, exchange, [], rfl, mark, .nothing⟩
  | ok values =>
      rw [reading] at ran
      rw [Act.bind_ok ran]
      exact ⟨((showFirst_alike fixed field.name values outlook).alike faces here).1, exchange, _,
        rfl, mark, Aside.showFirst field.name values next⟩

end Reading

/-! ## The end of the search -/

/-- The first class that declares the field, and what comes of it. -/
structure FindsField (link : Link τ) (chainLimit : Nat) (reply : Wire.Command -> Wire.Reply)
    (object : ObjectRef) (name : String) (before : Remote τ) (passed : List UInt64)
    (type : UInt64) (field : Wire.FieldInfo) : Prop where
  /-- The value that is read is the one that is shown. -/
  shown : forall value others, fieldReading reply object type field = .ok (value :: others) ->
    ((target link chainLimit).respond (.fieldValue object name) before).outcome
      = (convert link value before).outcome
  missing : fieldReading reply object type field = .ok [] ->
    ((target link chainLimit).respond (.fieldValue object name) before).outcome
      = .failed (.other ("no value returned for " ++ name))
  refused : forall fault, fieldReading reply object type field = .error fault ->
    ((target link chainLimit).respond (.fieldValue object name) before).outcome
      = .failed (.ofFault fault)
  /-- The superclasses of the classes below, and of no others. -/
  superclasses : sent asksSuperclass
      ((target link chainLimit).respond (.fieldValue object name) before).log
    = passed.map fun type => (Wire.Call.superclass type).command
  /-- The fields of the classes up to this one, unless they are remembered, and of no others. -/
  fields : (sent asksFields
      ((target link chainLimit).respond (.fieldValue object name) before).log).Sublist
    ((passed ++ [type]).map fun type => (Wire.Call.fields type).command)
  /-- One field is read, in the place where it is. -/
  values : sent readsFields
      ((target link chainLimit).respond (.fieldValue object name) before).log
    = [fieldCommand object type field]

/-- No class declares the field. -/
structure MissesField (link : Link τ) (chainLimit : Nat) (object : ObjectRef) (name : String)
    (before : Remote τ) (chain : List UInt64) : Prop where
  outcome : ((target link chainLimit).respond (.fieldValue object name) before).outcome
    = .failed (.noSuchElement ("field " ++ name ++ " in " ++ object.typeName))
  climbs : Climbs chain ((target link chainLimit).respond (.fieldValue object name) before).log

section Search

variable (fixed : Fixed link reply kept)
include fixed

/-- The field is found in a class that declares it, and nothing is sent but for its fields before it
is read. -/
theorem fieldInChain_declares
    (known : forall type, outlook (.fields type) = settledBy reply (.fields type))
    (faces : Faces reply kept outlook state) {type : UInt64} {field : Wire.FieldInfo}
    (declares : Declares reply name type field) (object : ObjectRef) (limit : Nat) :
    exists own between, Faces reply kept outlook between ∧
      Surveys (Wire.Call.fields type).command own ∧
      fieldInChain link object name type (limit + 1) state
        = (readField link object type field between).after own := by
  obtain ⟨earlier, later, readable, named, others⟩ := declares
  have first : (earlier ++ field :: later).find? (fun field => field.name == name)
      = some field := by
    refine List.find?_eq_some_iff_append.mpr ⟨beq_iff_eq.mpr named, earlier, later, rfl, ?_⟩
    intro other member
    simpa using others other member
  obtain ⟨asked, looked, found, surveys, faces⟩ :=
    lookUp_ran fixed faces ((known type).trans readable)
  change fields link type state = _ at found
  refine ⟨asked, looked, faces, surveys, ?_⟩
  rw [fieldInChain_succ, Act.bind_ok found, first]

theorem findsField {before : Remote τ} (faces : Faces reply kept outlook before)
    (known : forall type, outlook (.fields type) = settledBy reply (.fields type))
    {passed later : List UInt64} {type : UInt64} {field : Wire.FieldInfo}
    (ascends : Ascends reply (some object.typeId) (passed ++ type :: later) none)
    {chainLimit : Nat} (long : (passed ++ type :: later).length ≤ chainLimit)
    (lacks : forall other, other ∈ passed -> Lacks reply name other)
    (declares : Declares reply name type field) :
    FindsField link chainLimit reply object name before passed type field := by
  obtain ⟨next, early, late⟩ := ascends.split
  obtain ⟨limit, rfl⟩ : exists limit, chainLimit = passed.length + (limit + 1) := by
    rw [List.length_append, List.length_cons] at long
    exact ⟨chainLimit - passed.length - 1, by omega⟩
  cases late with
  | up above others =>
      obtain ⟨walk, between, facesThen, climbs, passes⟩ :=
        climb fixed known early lacks (limit + 1) faces
      obtain ⟨own, there, facesThen, surveys, finds⟩ :=
        fieldInChain_declares fixed known facesThen declares object limit
      obtain ⟨came, exchange, rest, log, mark, aside⟩ :=
        readField_comes fixed faces facesThen object type field
      have whole : (target link (passed.length + (limit + 1))).respond (.fieldValue object name)
          before = ((readField link object type field there).after own).after walk := by
        change searchFrom link object name _ (some object.typeId) before = _
        rw [passes, searchFrom, finds]
      have outcome : ((target link (passed.length + (limit + 1))).respond
          (.fieldValue object name) before).outcome
            = shownOf link before field.name (fieldReading reply object type field) := by
        rw [whole]
        exact came
      have marks : ((target link (passed.length + (limit + 1))).respond
          (.fieldValue object name) before).log = walk ++ (own ++ ([exchange] ++ rest)) := by
        rw [whole]
        exact congrArg (fun rest => walk ++ (own ++ rest)) log
      obtain ⟨superclasses, fields, values⟩ := sent_to_read climbs surveys mark aside
      rw [← marks] at superclasses fields values
      obtain ⟨_, _, _, rfl, _⟩ := declares
      refine ⟨fun value others reading => ?_, fun reading => ?_, fun fault reading => ?_,
        superclasses, fields, values⟩
      · rw [outcome, reading]
        rfl
      · rw [outcome, reading]
        rfl
      · rw [outcome, reading]
        rfl

theorem missesField {before : Remote τ} (faces : Faces reply kept outlook before)
    (known : forall type, outlook (.fields type) = settledBy reply (.fields type))
    {chain : List UInt64} (ascends : Ascends reply (some object.typeId) chain none)
    {chainLimit : Nat} (long : chain.length ≤ chainLimit)
    (lacks : forall type, type ∈ chain -> Lacks reply name type) :
    MissesField link chainLimit object name before chain := by
  obtain ⟨limit, rfl⟩ := Nat.exists_eq_add_of_le long
  obtain ⟨walk, between, _, climbs, passes⟩ := climb fixed known ascends lacks limit faces
  have whole : (target link (chain.length + limit)).respond (.fieldValue object name) before
      = ⟨.failed (.noSuchElement ("field " ++ name ++ " in " ++ object.typeName)), walk ++ [],
          between⟩ := by
    change searchFrom link object name _ (some object.typeId) before = _
    rw [passes]
    rfl
  refine ⟨by rw [whole], ?_⟩
  rw [whole, List.append_nil]
  exact climbs

end Search

/-! ## Whatever is remembered of fields -/

theorem outlook_fields_of_told {caches : Caches}
    (told : forall type declared, caches.fields.lookup type = some declared ->
      settledBy reply (.fields type) = .ok declared) (type : UInt64) :
    caches.outlook reply (.fields type) = settledBy reply (.fields type) := by
  cases recalled : (Lookup.fields type).find caches with
  | some declared =>
      rw [Caches.outlook_of_recalled recalled]
      exact (told type declared recalled).symm
  | none =>
      rw [Caches.outlook_of_forgotten recalled]
      cases settledBy reply (.fields type) <;> rfl

theorem Informed.outlook_fields {before : Remote τ} (informed : Informed reply kept before)
    (type : UInt64) :
    before.caches.outlook reply (.fields type) = settledBy reply (.fields type) := by
  rw [informed.caches.outlook_eq rfl]
  cases settledBy reply (.fields type) <;> rfl

/-- Other fields in the memory make no difference, as long as they are what would be replied. -/
theorem Informed.outlook_with_fields {before : Remote τ} (informed : Informed reply kept before)
    {fields : List (UInt64 × List Wire.FieldInfo)}
    (told : forall type declared, fields.lookup type = some declared ->
      settledBy reply (.fields type) = .ok declared) :
    { before.caches with fields }.outlook reply = before.caches.outlook reply := by
  funext lookup
  cases lookup with
  | fields type => rw [outlook_fields_of_told told, informed.outlook_fields]
  | _ => rfl

/-- Every command has the same reply each time, and the way up from the class of the object leads to
the root.  Whatever has been asked before, the first class on the way that declares a field of this
name decides: its first field of the name is read, from the class itself if the field is static and
else from the object, and nothing is asked about the classes above.  If there is none, there is no
such field, and every class on the way has been asked for its superclass once.  What is remembered
of fields makes no difference. -/
theorem fields_are_inherited {link : Link τ} (fixed : Fixed link reply kept) (chainLimit : Nat)
    {start : τ} (begins : kept start) (requests : List Request) {before : Remote τ}
    {object : ObjectRef} {name : String}
    (now : ⟨before, .fieldValue object name⟩
      ∈ (target link chainLimit).course requests ⟨start, {}⟩)
    {chain : List UInt64} (ascends : Ascends reply (some object.typeId) chain none)
    (long : chain.length ≤ chainLimit) :
    ((forall type, type ∈ chain -> exists declared,
        settledBy reply (.fields type) = .ok declared) ->
      (forall type, type ∈ chain -> Lacks reply name type) ∨
        exists passed type later field, chain = passed ++ type :: later ∧
          (forall other, other ∈ passed -> Lacks reply name other) ∧
          Declares reply name type field) ∧
    (forall passed type later field, chain = passed ++ type :: later ->
      (forall other, other ∈ passed -> Lacks reply name other) ->
      Declares reply name type field ->
      FindsField link chainLimit reply object name before passed type field) ∧
    ((forall type, type ∈ chain -> Lacks reply name type) ->
      MissesField link chainLimit object name before chain) ∧
    forall fields, (forall type declared, fields.lookup type = some declared ->
        settledBy reply (.fields type) = .ok declared) ->
      ((target link chainLimit).respond (.fieldValue object name)
          { before with caches := { before.caches with fields } }).outcome
        = ((target link chainLimit).respond (.fieldValue object name) before).outcome := by
  have informed : Informed reply kept before :=
    Informed.course fixed begins chainLimit requests _ now
  have faces : Faces reply kept (before.caches.outlook reply) before := .of_kept informed.link
  refine ⟨lacking_or_first, ?_, missesField fixed faces informed.outlook_fields ascends long, ?_⟩
  · rintro passed type later field rfl lacks declares
    exact findsField fixed faces informed.outlook_fields ascends long lacks declares
  · intro fields told
    have other : Faces reply kept (before.caches.outlook reply)
        { before with caches := { before.caches with fields } } :=
      ⟨informed.link, informed.outlook_with_fields told⟩
    have composed : Composed link (fun _ => True) (fun _ _ => False)
        (fieldInChain link object name object.typeId chainLimit) :=
      Composed.fieldInChain (fun _ _ => trivial) object name object.typeId chainLimit
    exact ((Faces.uniform fixed composed).alike other faces).1

end Remote

/-! ## A static field of a superclass -/

/-- A class with a field of its own.  Its superclass declares one name twice, first as a static
field. -/
def derived (command : Wire.Command) : Wire.Reply :=
  if command = (Wire.Call.fields 20).command then
    ⟨0, 0, Wire.listBytes Wire.FieldInfo.bytes [⟨1, "total", "I", 0⟩]⟩
  else if command = (Wire.Call.superclass 20).command then ⟨0, 0, Wire.wordBytes64 21⟩
  else if command = (Wire.Call.fields 21).command then
    ⟨0, 0, Wire.listBytes Wire.FieldInfo.bytes [⟨2, "count", "I", 8⟩, ⟨3, "count", "I", 0⟩]⟩
  else if command = (Wire.Call.superclass 21).command then ⟨0, 0, Wire.wordBytes64 0⟩
  else if command = (Wire.Call.staticValues 21 [2]).command then
    ⟨0, 0, Wire.listBytes Wire.Value.taggedBytes [⟨.int, .int 7⟩]⟩
  else ⟨0, 101, []⟩

theorem derived_fixed : Fixed (Client.link (replying derived)) derived (Expects noEvents) := by
  refine replying_fixed fun command => ?_
  unfold derived
  repeat' split
  all_goals decide

open Remote in
/-- The static field is read from the superclass, whether its fields are remembered or not, and a
field that neither class declares is missed after two superclasses. -/
theorem derived_fields_are_inherited :
    let link := Client.link (replying derived)
    let start : Remote (Client Unit) := ⟨Client.opened () { bytes := [] }, {}⟩
    let object : ObjectRef := ⟨9, 20, "Calc"⟩
    let count : Wire.FieldInfo := ⟨2, "count", "I", 8⟩
    let remembered : List (UInt64 × List Wire.FieldInfo) :=
      [(21, [⟨2, "count", "I", 8⟩, ⟨3, "count", "I", 0⟩])]
    Ascends derived (some object.typeId) [20, 21] none ∧
      FindsField link 2 derived object "count" start [20] 21 count ∧
      ((target link 2).respond (.fieldValue object "count") start).outcome = .ok (.int 7) ∧
      ((target link 2).respond (.fieldValue object "count")
        { start with caches := { start.caches with fields := remembered } }).outcome
          = .ok (.int 7) ∧
      MissesField link 2 object "weight" start [20, 21] := by
  intro link start object count remembered
  have now (name : String) : (⟨start, .fieldValue object name⟩ : Turn _)
      ∈ (target link 2).course [.fieldValue object name] start := List.mem_cons_self
  have inherits : settledBy derived (.superclass 20) = .ok (some 21) := by decide +kernel
  have root : settledBy derived (.superclass 21) = .ok none := by decide +kernel
  have ascends : Ascends derived (some object.typeId) [20, 21] none :=
    .up inherits (.up root .here)
  have below : settledBy derived (.fields 20) = .ok [⟨1, "total", "I", 0⟩] := by decide +kernel
  have above : settledBy derived (.fields 21)
      = .ok [⟨2, "count", "I", 8⟩, ⟨3, "count", "I", 0⟩] := by decide +kernel
  have declares : Declares derived "count" 21 count :=
    ⟨[], _, above, rfl, List.forall_mem_nil _⟩
  have lacks : forall type, type ∈ [20] -> Lacks derived "count" type :=
    List.forall_mem_singleton.mpr ⟨_, below, by simp⟩
  have lacking : forall type, type ∈ [20, 21] -> Lacks derived "weight" type :=
    List.forall_mem_cons.mpr ⟨⟨_, below, by simp⟩,
      List.forall_mem_singleton.mpr ⟨_, above, by simp⟩⟩
  have told : forall type declared, remembered.lookup type = some declared ->
      settledBy derived (.fields type) = .ok declared := by
    intro type declared found
    by_cases same : type = 21
    · subst same
      cases found
      exact above
    · rw [List.lookup_cons, beq_false_of_ne same] at found
      cases found
  obtain ⟨_, finds, _, alike⟩ := fields_are_inherited derived_fixed 2 replying_silent
    [.fieldValue object "count"] (now "count") ascends (by decide)
  obtain ⟨_, _, misses, _⟩ := fields_are_inherited derived_fixed 2 replying_silent
    [.fieldValue object "weight"] (now "weight") ascends (by decide)
  have found := finds [20] 21 [] count rfl lacks declares
  have came : (fieldInChain link object "count" object.typeId 2 start).outcome = .ok (.int 7) := by
    decide +kernel
  exact ⟨ascends, found, came, (alike remembered told).trans came, misses lacking⟩

end Debuggee
end LineDebugger
