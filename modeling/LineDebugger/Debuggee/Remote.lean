import LineDebugger.Debuggee.Target
import LineDebugger.Debuggee.TypeName

namespace LineDebugger
namespace Debuggee

open Connection

/-!
# A target behind a link

This target answers requests by calls over a link to a virtual machine.  Ids become
names, wire values become values ready to be shown.  What a class or method is cannot
change while it is loaded, so successful lookups are remembered and failed ones are
not.  Missing debug information makes an answer poorer instead of making it fail; only
the loss of the virtual machine always comes through.
-/

/-- Remembered lookups, the newest first. -/
structure Caches where
  typeNames : List (UInt64 × String) := []
  methods : List (UInt64 × List Wire.MethodInfo) := []
  fields : List (UInt64 × List Wire.FieldInfo) := []
  lineTables : List ((UInt64 × UInt64) × Wire.LineTable) := []
  variableTables : List ((UInt64 × UInt64) × List Wire.Variable) := []
  deriving DecidableEq, Repr

/-- The state of a target behind a link. -/
structure Remote (τ : Type) where
  link : τ
  caches : Caches := {}

namespace Remote

variable {τ α : Type}

/-- A computation of a target behind a link. -/
abbrev RemoteAct (τ α : Type) : Type := Act (Remote τ) Exchange TargetError α

/-! ## Calls and lookups -/

/-- Put a call over the link. -/
def call (link : Link τ) (question : Wire.Call) : RemoteAct τ question.Answer := fun state =>
  let result := link.call question state.link
  ⟨result.outcome.mapError TargetError.ofFault, result.log, { state with link := result.state }⟩

/-- Change what is remembered. -/
def remember (change : Caches -> Caches) : RemoteAct τ Unit :=
  Act.update fun state => { state with caches := change state.caches }

/-- Answer from memory, or fetch the answer and remember it. -/
def lookUp (find : Caches -> Option α) (store : α -> Caches -> Caches)
    (fetch : RemoteAct τ α) : RemoteAct τ α := do
  let state ← Act.current
  match find state.caches with
  | some known => return known
  | none =>
      let fetched ← fetch
      remember (store fetched)
      return fetched

/-- Note the name of a class. -/
def storeTypeName (type : UInt64) (name : String) (caches : Caches) : Caches :=
  { caches with typeNames := (type, name) :: caches.typeNames }

/-- The name of a type. -/
def typeName (link : Link τ) (type : UInt64) : RemoteAct τ String :=
  lookUp (·.typeNames.lookup type) (storeTypeName type) do
    let signature : String ← call link (.signature type)
    return TypeName.ofSignature signature

/-- The methods that a class declares. -/
def methods (link : Link τ) (type : UInt64) : RemoteAct τ (List Wire.MethodInfo) :=
  lookUp (·.methods.lookup type)
    (fun found caches => { caches with methods := (type, found) :: caches.methods })
    (call link (.methods type))

/-- The fields that a class declares, without inherited ones. -/
def fields (link : Link τ) (type : UInt64) : RemoteAct τ (List Wire.FieldInfo) :=
  lookUp (·.fields.lookup type)
    (fun found caches => { caches with fields := (type, found) :: caches.fields })
    (call link (.fields type))

/-- The source lines of a method. -/
def lineTable (link : Link τ) (type method : UInt64) : RemoteAct τ Wire.LineTable :=
  lookUp (·.lineTables.lookup (type, method))
    (fun found caches =>
      { caches with lineTables := ((type, method), found) :: caches.lineTables })
    (call link (.lineTable type method))

/-- The local variables of a method. -/
def variableTable (link : Link τ) (type method : UInt64) :
    RemoteAct τ (List Wire.Variable) :=
  lookUp (·.variableTables.lookup (type, method))
    (fun found caches =>
      { caches with variableTables := ((type, method), found) :: caches.variableTables })
    (call link (.variableTable type method))

/-- Go on without an answer unless the virtual machine is gone. -/
def tolerate (act : RemoteAct τ α) : RemoteAct τ (Option α) := do
  match ← act.attempt with
  | .ok value => return some value
  | .error error => if error.isDisconnect then Act.fail error else return none

/-! ## Locations and values -/

/-- The name of a method in the list of its class. -/
def methodName? (method : UInt64) (methods : List Wire.MethodInfo) : Option String :=
  (methods.find? fun info => info.id == method).map Wire.MethodInfo.name

/-- The source line of a code index.  A negative line is no line. -/
def lineAt? (index : UInt64) (table : Wire.LineTable) : Option UInt32 :=
  (table.lineForIndex index).bind fun line =>
    if line.toInt < 0 then none else some line.toUInt32

/-- Attach names and the source line to a code position.  What cannot be found out is
replaced by the id in hexadecimal, or left out. -/
def describe (link : Link τ) (place : Wire.Location) : RemoteAct τ Location := do
  let className ← tolerate (typeName link place.classId)
  let methodList ← tolerate (methods link place.classId)
  let table ← tolerate (lineTable link place.classId place.methodId)
  return {
    classId := place.classId
    className := className.getD (Text.Numeral.hex place.classId.toNat)
    methodId := place.methodId
    methodName := (methodList.bind (methodName? place.methodId)).getD
      (Text.Numeral.hex place.methodId.toNat)
    line := table.bind (lineAt? place.index)
    codeIndex := place.index }

/-- The position of a location, as the virtual machine understands it. -/
def position (location : Location) : Wire.Location :=
  ⟨Wire.Location.classTag, location.classId, location.methodId, location.codeIndex⟩

/-- The character that a UTF-16 unit stands for by itself.  A surrogate stands for none
and shows as the replacement character. -/
def unitChar (unit : UInt16) : Char :=
  if unit.toNat.isValidChar then Char.ofNat unit.toNat else '\uFFFD'

/-- A reference, with what has to be asked about it: the contents of a string, the
element type and length of an array, the type of any other object. -/
def convertReference (link : Link τ) (tag : Wire.TypeTag) (id : UInt64) :
    RemoteAct τ Value := do
  match tag with
  | .string =>
      let contents : String ← call link (.stringValue id)
      return .text contents
  | .array =>
      let type : UInt64 ← call link (.objectType id)
      let arrayName ← typeName link type
      let length : Int32 ← call link (.arrayLength id)
      return .array {
        id
        elementType := TypeName.element arrayName
        length := length.toInt.toNat }
  | _ =>
      let typeId : UInt64 ← call link (.objectType id)
      let name ← typeName link typeId
      return .object { id, typeId, typeName := name }

/-- Make a value from the wire ready to be shown. -/
def convert (link : Link τ) (value : Wire.Value) : RemoteAct τ Value :=
  match value.data with
  | .byte value => pure (.int (Int64.ofInt value.toInt))
  | .short value => pure (.int (Int64.ofInt value.toInt))
  | .int value => pure (.int (Int64.ofInt value.toInt))
  | .long value => pure (.int value)
  | .float bits => pure (.float (Decimal.widen bits))
  | .double bits => pure (.float bits)
  | .boolean value => pure (.bool value)
  | .char unit => pure (.char (unitChar unit))
  | .void => pure .none
  | .object id => if id = 0 then pure .none else convertReference link value.tag id

/-- Classify an event.  A prepared class tells its name, which is remembered. -/
def convertEvent (link : Link τ) (event : Wire.Event) : RemoteAct τ TargetEvent := do
  match event.details with
  | .classPrepare thread _ type signature _ =>
      let name := TypeName.ofSignature signature
      remember (storeTypeName type name)
      return .classPrepared thread type name
  | .breakpoint thread place =>
      return .breakpointHit event.request thread (← describe link place)
  | .step thread place =>
      return .stepCompleted event.request thread (← describe link place)
  | .machineDeath => return .disconnected
  | .machineStart _ | .threadStart _ | .threadDeath _ | .unknown _ => return .other

/-- Report an event.  A set may have suspended the debuggee, so it has to reach the session
even if one of its events cannot be classified; such an event counts as `other`. -/
def reportEvent (link : Link τ) (event : Wire.Event) : RemoteAct τ TargetEvent := do
  return (← tolerate (convertEvent link event)).getD .other

/-! ## Answers -/

/-- The next batch of events, one for each event on the wire. -/
def nextEvents (link : Link τ) : RemoteAct τ EventBatch := do
  let received ← fun state =>
    let result := link.nextEvents state.link
    ⟨result.outcome, result.log, { state with link := result.state }⟩
  match received with
  | none => Act.fail (.notAvailable "event channel closed")
  | some set =>
      let events ← Act.each (reportEvent link) set.events
      return { suspended := set.suspends, events }

/-- The place where a line begins in one method, if it does.  Methods without a line
table, such as abstract ones, are passed over. -/
def locationInMethod (link : Link τ) (classId : UInt64) (line : Int32)
    (method : Wire.MethodInfo) : RemoteAct τ (Option Location) := do
  match (← tolerate (lineTable link classId method.id)).bind (·.firstIndexOfLine line) with
  | none => return none
  | some index =>
      let location ← describe link ⟨Wire.Location.classTag, classId, method.id, index⟩
      return some location

/-- The places where a line begins in a class, lowest code index first; methods that
share a code index stay in the order of the class. -/
def locationsOfLine (link : Link τ) (classId : UInt64) (line : UInt32) :
    RemoteAct τ (List Location) := do
  if Int32.maxValue.toInt < line.toNat then
    Act.fail (.noSuchElement s!"line {line.toNat}")
  else
    let methodList ← methods link classId
    let found ← Act.each (locationInMethod link classId line.toInt32) methodList
    match found.filterMap id with
    | [] => Act.fail (.noSuchElement s!"no code at line {line.toNat}")
    | locations =>
        return locations.mergeSort fun one other => one.codeIndex ≤ other.codeIndex

/-- The depth of a step on the wire. -/
def depth : StepScope -> Int32
  | .overCalls => Wire.StepShape.overCalls
  | .intoCalls => Wire.StepShape.intoCalls

/-- The frames of a thread.  Asking the virtual machine for more frames than there are
is an error, so all are fetched and the limit is applied here. -/
def frames (link : Link τ) (thread : UInt64) (limit : Option Nat) :
    RemoteAct τ (List StackFrame) := do
  let all : List Wire.Frame ← call link (.frames thread 0 (-1))
  let wanted := match limit with
    | some limit => all.take limit
    | none => all
  Act.each
    (fun frame => do return { id := frame.id, location := ← describe link frame.location })
    wanted

/-- How the value of a variable is asked for.  The letter is the first byte of its
signature; an empty signature counts as an object's. -/
def slotQuery (entry : Wire.Variable) : Wire.SlotQuery where
  slot := entry.slot.toInt32
  letter := (Text.Utf8.encode entry.signature).head?.getD Wire.TypeTag.object.toByte

/-- A variable with the value that was read from its slot. -/
def showVariable (link : Link τ) (entry : Wire.Variable × Wire.Value) :
    RemoteAct τ LocalVariable := do
  let value ← convert link entry.2
  return {
    name := entry.1.name
    declaredType := TypeName.ofSignature entry.1.signature
    value }

/-- The variables that are live at a frame's position, with their values.  One command
reads all slots; none is sent when there is nothing to read. -/
def visibleVariables (link : Link τ) (thread : UInt64) (frame : StackFrame) :
    RemoteAct τ (List LocalVariable) := do
  let table ← variableTable link frame.location.classId frame.location.methodId
  match table.filter fun entry => entry.isVisibleAt frame.location.codeIndex with
  | [] => return []
  | visible =>
      let values : List Wire.Value ←
        call link (.frameValues thread frame.id (visible.map slotQuery))
      Act.each (showVariable link) (visible.zip values)

/-- The value of a field that a class declares: read from the class if it is static and
from the object otherwise. -/
def readField (link : Link τ) (object : ObjectRef) (type : UInt64)
    (field : Wire.FieldInfo) : RemoteAct τ Value := do
  let values : List Wire.Value ←
    if field.isStatic then call link (.staticValues type [field.id])
    else call link (.objectValues object.id [field.id])
  match values with
  | value :: _ => convert link value
  | [] => Act.fail (.other ("no value returned for " ++ field.name))

/-- Look for a field in a class and then in its superclasses, at most `chainLimit`
classes altogether.  The virtual machine is not trusted to have a root class: a longer
walk is one that has not come back. -/
def fieldInChain (link : Link τ) (object : ObjectRef) (name : String) (type : UInt64) :
    (chainLimit : Nat) -> RemoteAct τ Value
  | 0 => Act.wait
  | chainLimit + 1 => do
      let declared ← fields link type
      match declared.find? fun field => field.name == name with
      | some field => readField link object type field
      | none =>
          let parent : Option UInt64 ← call link (.superclass type)
          match parent with
          | some parent => fieldInChain link object name parent chainLimit
          | none =>
              Act.fail (.noSuchElement ("field " ++ name ++ " in " ++ object.typeName))

/-- An index that is too large for the wire. -/
def beyondIndexes (n : Nat) : Bool := Int32.maxValue.toInt < n

/-- One element of an array. -/
def arrayElement (link : Link τ) (array : ArrayRef) (index : Nat) : RemoteAct τ Value := do
  let missing : TargetError := .noSuchElement s!"index {index}"
  if beyondIndexes index then Act.fail missing
  else
    let values : List Wire.Value ←
      call link (.arrayValues array.id (Int32.ofNat index) 1)
    match values with
    | value :: _ => convert link value
    | [] => Act.fail missing

/-- Every element of an array.  An empty array needs no command. -/
def arrayValues (link : Link τ) (array : ArrayRef) : RemoteAct τ (List Value) := do
  if array.length = 0 then return []
  else if beyondIndexes array.length then
    Act.fail (.other ("array " ++ Text.Numeral.hex array.id.toNat ++ " too long"))
  else
    let values : List Wire.Value ←
      call link (.arrayValues array.id 0 (Int32.ofNat array.length))
    Act.each (convert link) values

/-- Let the virtual machine go.  One that is already gone has been let go. -/
def detach (link : Link τ) : RemoteAct τ Unit := do
  match ← (call link .dispose).attempt with
  | .ok _ => return ()
  | .error error => if error.isDisconnect then return () else Act.fail error

/-- The target behind a link.  The limit bounds the search for inherited fields. -/
def target (link : Link τ) (chainLimit : Nat) : Target (Remote τ) where
  respond
    | .nextEvents => nextEvents link
    | .watchClassPrepare pattern => call link (.setClassPrepare pattern .all)
    | .locationsOfLine classId line => locationsOfLine link classId line
    | .enableBreakpoint location => call link (.setBreakpoint (position location) .all)
    | .deleteBreakpoint id => call link (.clearBreakpoint id)
    | .createStep thread scope filter =>
        call link (.setStep thread Wire.StepShape.line (depth scope) (some filter) .all)
    | .deleteStep id => call link (.clearStep id)
    | .resume => call link .resumeAll
    | .frames thread limit => frames link thread limit
    | .visibleVariables thread frame => visibleVariables link thread frame
    | .fieldValue object field => fieldInChain link object field object.typeId chainLimit
    | .arrayElement array index => arrayElement link array index
    | .arrayValues array => arrayValues link array
    | .detach => detach link

end Remote
end Debuggee
end LineDebugger
