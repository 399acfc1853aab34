import LineDebugger.Proofs.Debuggee.Composition
import LineDebugger.Proofs.Debuggee.Course
import LineDebugger.Proofs.Debuggee.TypeName

namespace LineDebugger
namespace Debuggee

open Connection

/-!
# What arrays are said to be arrays of

An array is shown with the type of its elements.  The virtual machine is asked for the type of the
array, the name of this type is looked up, and one pair of brackets is taken off.  The name may
have been remembered, but whatever is remembered has been told: as the answer to a question for the
signature of the type, or with the news that the type has been prepared.  So the elements have the
type that is left of a signature that has been told, without its first bracket.

Nothing is assumed of the virtual machine.  If it tells of an array type a signature without a
bracket, then the elements are shown with the name of that.
-/

variable {τ α β : Type}

/-! ## What has been told -/

/-- The states that a link comes to by commands and receipts. -/
inductive Comes (link : Link τ) (start : τ) : τ -> Prop where
  | here : Comes link start start
  | send {state : τ} (before : Comes link start state) (command : Wire.Command) :
      Comes link start (link.send command state).link
  | receive {state : τ} (before : Comes link start state) :
      Comes link start (link.receive state).2

/-- Somewhere on the way the call comes to this answer. -/
def Answered (link : Link τ) (start : τ) (question : Wire.Call) (answer : question.Answer) : Prop :=
  exists state, Comes link start state ∧
    question.verdict (link.send question.command state).outcome = .ok answer

/-- The virtual machine has told the signature of a type: it has been asked for it, or it has
reported that the type is prepared. -/
inductive Told (link : Link τ) (start : τ) (type : UInt64) (signature : String) : Prop where
  | asked (answered : Answered link start (.signature type) signature)
  | prepared {state : τ} {set : Wire.EventSet} {event : Wire.Event}
      (comes : Comes link start state) (received : (link.receive state).1 = .ok (some set))
      (member : event ∈ set.events) (tells : Remote.Tells event type signature)

/-- The name is that of a signature that has been told of the type. -/
def NameTold (link : Link τ) (start : τ) (type : UInt64) (name : String) : Prop :=
  exists signature, Told link start type signature ∧ name = TypeName.ofSignature signature

namespace Remote

/-- The link has come to where it is, and all names that are remembered have been told. -/
structure NamesTold (link : Link τ) (start : τ) (state : Remote τ) : Prop where
  comes : Comes link start state.link
  names : forall type name, (Lookup.typeName type).find state.caches = some name ->
    NameTold link start type name

namespace NamesTold

variable {link : Link τ} {start : τ} {state : Remote τ}

theorem fresh (link : Link τ) (start : τ) : NamesTold link start ⟨start, {}⟩ where
  comes := .here
  names type name known := by
    rw [Lookup.find_fresh] at known
    cases known

/-- A name that has been told may be noted. -/
theorem note (told : NamesTold link start state) {type : UInt64} {name : String}
    (alsoTold : NameTold link start type name) :
    NamesTold link start { state with caches := storeTypeName type name state.caches } where
  comes := told.comes
  names := by
    intro other found known
    by_cases same : other = type
    · subst same
      cases known.symm.trans (Lookup.find_store (.typeName other) name state.caches)
      exact alsoTold
    · have different : Lookup.typeName other ≠ .typeName type :=
        fun impossible => same (Lookup.typeName.inj impossible)
      exact told.names other found ((Lookup.find_store_of_ne different name _).symm.trans known)

theorem call (told : NamesTold link start state) (question : Wire.Call) :
    NamesTold link start (Remote.call link question state).state := by
  rw [call_eq]
  exact ⟨told.comes.send _, told.names⟩

/-- What is learned by a lookup has been told, if it is a name. -/
theorem lookUp (told : NamesTold link start state) (lookup : Lookup) :
    NamesTold link start (lookup.act link state).state := by
  cases recalled : lookup.find state.caches with
  | some known =>
      rw [Lookup.act_of_recalled recalled]
      exact told
  | none =>
      have after := told.call lookup.call
      rw [call_eq] at after
      rw [Lookup.act_of_forgotten recalled]
      cases came : lookup.call.verdict (link.send lookup.call.command state.link).outcome with
      | ok answer =>
          cases lookup with
          | typeName type =>
              exact after.note ⟨answer, .asked ⟨state.link, told.comes, came⟩, rfl⟩
          | _ =>
              -- The other lookups remember nothing about names.
              refine ⟨after.comes, fun type name known => told.names type name ?_⟩
              exact (Lookup.find_store_of_ne (by intro impossible; cases impossible) _ _).symm.trans
                known
      | _ => exact after

theorem of_composed (told : NamesTold link start state) {asks : Wire.Call -> Prop}
    {act : RemoteAct τ α} (composed : Composed link asks (NameTold link start) act) :
    NamesTold link start (act state).state :=
  composed.preserves (NamesTold link start) (fun question _ _ now => now.call question)
    (fun lookup _ now => now.lookUp lookup) (fun _ _ noted _ now => now.note noted) state told

/-- Every request keeps it so. -/
theorem respond (told : NamesTold link start state) (chainLimit : Nat) (request : Request) :
    NamesTold link start ((target link chainLimit).respond request state).state := by
  have shape : request = .nextEvents ∨ request = .detach
      ∨ Composed link (fun _ => True) (NameTold link start)
          ((target link chainLimit).respond request) :=
    Composed.respond_cases (fun _ _ => trivial) chainLimit request fun _ _ => trivial
  rcases shape with rfl | rfl | composed
  · -- The receipt is no part of a composed computation, but what is made of it is one.
    have after : NamesTold link start (received link state) := ⟨told.comes.receive, told.names⟩
    change NamesTold link start (nextEvents link state).state
    rcases nextEvents_cases link state with ⟨set, came, same⟩ | ⟨_, same⟩ | ⟨_, same⟩ <;> rw [same]
    · have composed : Composed link (fun _ => True) (NameTold link start) (report link set) := by
        apply Composed.report
        intro event member type signature tells
        exact ⟨signature, .prepared told.comes came member tells, rfl⟩
      exact after.of_composed composed
    · exact after
    · exact after
  · change NamesTold link start (detach link state).state
    rw [detach_eq]
    exact told.call .dispose
  · exact told.of_composed composed

/-- Where the whole comes out well, so does its first part, and the rest goes on with names that
have been told. -/
theorem of_bind (told : NamesTold link start state) {first : RemoteAct τ α}
    {onward : α -> RemoteAct τ β} {result : β}
    (composed : Composed link (fun _ => True) (NameTold link start) first)
    (came : ((first >>= onward) state).outcome = .ok result) :
    exists middle next, (first state).outcome = .ok middle ∧ NamesTold link start next ∧
      (onward middle next).outcome = .ok result := by
  rcases Act.ok_of_bind came with ⟨middle, own, next, ran, rest⟩
  have after := told.of_composed composed
  rw [ran] at after
  rw [rest] at came
  exact ⟨middle, next, congrArg Progress.outcome ran, after, came⟩

/-- Every result has been made of one of the values, with names that have been told. -/
theorem of_each (told : NamesTold link start state) {f : α -> RemoteAct τ β} {values : List α}
    (composed : forall value, Composed link (fun _ => True) (NameTold link start) (f value))
    {results : List β} (came : (Act.each f values state).outcome = .ok results) :
    forall result, result ∈ results -> exists value before, value ∈ values ∧
      NamesTold link start before ∧ (f value before).outcome = .ok result := by
  induction values generalizing state results with
  | nil =>
      cases came
      exact List.forall_mem_nil _
  | cons value values inductionHypothesis =>
      rcases each_cons_eq_ok_iff.mp came with ⟨first, others, made, later, rfl⟩
      intro result member
      rcases List.mem_cons.mp member with rfl | member
      · exact ⟨value, state, List.mem_cons_self, told, made⟩
      · rcases inductionHypothesis (told.of_composed (composed value)) later result member with
          ⟨source, before, present, toldBefore, made⟩
        exact ⟨source, before, List.mem_cons_of_mem _ present, toldBefore, made⟩

end NamesTold

/-! ## What is shown -/

section Shown

variable {link : Link τ} {start : τ} {state : Remote τ}

/-- A name that is looked up has been told. -/
theorem typeName_told (told : NamesTold link start state) {type : UInt64} {name : String}
    (came : (typeName link type state).outcome = .ok name) : NameTold link start type name := by
  change ((Lookup.typeName type).act link state).outcome = .ok name at came
  cases recalled : (Lookup.typeName type).find state.caches with
  | some known =>
      rw [Lookup.act_of_recalled recalled] at came
      cases came
      exact told.names type name recalled
  | none =>
      rw [Lookup.act_of_forgotten recalled] at came
      rcases Outcome.map_eq_ok_iff.mp (Outcome.mapError_eq_ok_iff.mp came) with
        ⟨signature, answered, rfl⟩
      exact ⟨signature, .asked ⟨state.link, told.comes, answered⟩, rfl⟩

theorem answered_of_call (told : NamesTold link start state) {question : Wire.Call}
    {answer : question.Answer} (came : (call link question state).outcome = .ok answer) :
    Answered link start question answer := by
  rw [call_eq] at came
  exact ⟨state.link, told.comes, Outcome.mapError_eq_ok_iff.mp came⟩

/-- The array is of this type, this signature has been told of the type, and the elements are shown
with the name of the signature, less one pair of brackets. -/
structure OfSignature (link : Link τ) (start : τ) (array : ArrayRef) (type : UInt64)
    (signature : String) : Prop where
  ofType : Answered link start (.objectType array.id) type
  told : Told link start type signature
  elementType : array.elementType = TypeName.element (TypeName.ofSignature signature)

/-- The elements are shown with the name that belongs to a signature told of the type of the array,
without its first bracket. -/
def ElementsNamed (link : Link τ) (start : τ) (array : ArrayRef) : Prop :=
  exists type signature, OfSignature link start array type signature ∧
    forall element, signature = "[" ++ element ->
      array.elementType = TypeName.ofSignature element

theorem OfSignature.elementsNamed {array : ArrayRef} {type : UInt64} {signature : String}
    (ofSignature : OfSignature link start array type signature) :
    ElementsNamed link start array := by
  refine ⟨type, signature, ofSignature, ?_⟩
  rintro element rfl
  rw [ofSignature.elementType, TypeName.element_ofSignature_array]

/-- The value has been made from one of the wire, with names that have been told. -/
def Converted (link : Link τ) (start : τ) (value : Value) : Prop :=
  exists read before, NamesTold link start before ∧
    (convert link read before).outcome = .ok value

/-- Of a reference only that to an array becomes an array. -/
theorem convertReference_array (told : NamesTold link start state) {tag : Wire.TypeTag}
    {id : UInt64} {array : ArrayRef}
    (came : (convertReference link tag id state).outcome = .ok (.array array)) :
    ElementsNamed link start array := by
  cases tag with
  | array =>
      rcases told.of_bind (.ask trivial) came with ⟨type, next, asked, after, came⟩
      rcases after.of_bind (.typeName type) came with ⟨name, last, named, later, came⟩
      rcases later.of_bind (.ask trivial) came with ⟨length, _, _, _, came⟩
      cases came
      rcases typeName_told after named with ⟨signature, toldOf, rfl⟩
      exact OfSignature.elementsNamed ⟨answered_of_call told asked, toldOf, rfl⟩
  | string =>
      rcases told.of_bind (.ask trivial) came with ⟨contents, next, _, _, came⟩
      cases came
  | _ =>
      rcases told.of_bind (.ask trivial) came with ⟨type, next, _, after, came⟩
      rcases after.of_bind (.typeName type) came with ⟨name, last, _, _, came⟩
      cases came

theorem convert_array (told : NamesTold link start state) {read : Wire.Value} {array : ArrayRef}
    (came : (convert link read state).outcome = .ok (.array array)) :
    ElementsNamed link start array := by
  unfold convert at came
  cases data : read.data with
  | object id =>
      rw [data] at came
      dsimp only at came
      by_cases null : id = 0
      · rw [if_pos null] at came
        cases came
      · rw [if_neg null] at came
        exact convertReference_array told came
  | _ =>
      rw [data] at came
      cases came

end Shown

/-! ## What requests are answered with -/

/-- The values in the answer to a request. -/
def valuesIn : (request : Request) -> request.Answer -> List Value
  | .visibleVariables .., (locals : List LocalVariable) => locals.map LocalVariable.value
  | .fieldValue .., (value : Value) => [value]
  | .arrayElement .., (value : Value) => [value]
  | .arrayValues .., (values : List Value) => values
  | _, _ => []

section Answers

variable {link : Link τ} {start : τ} {state : Remote τ}

theorem composed_convert (value : Wire.Value) :
    Composed link (fun _ => True) (NameTold link start) (convert link value) :=
  .convert (fun _ _ => trivial) value

theorem visibleVariables_converted (told : NamesTold link start state) {thread : UInt64}
    {frame : StackFrame} {locals : List LocalVariable}
    (came : (visibleVariables link thread frame state).outcome = .ok locals) :
    forall shown, shown ∈ locals -> Converted link start shown.value := by
  rcases told.of_bind (.lookUp (.variableTable _ _)) came with ⟨table, next, _, after, came⟩
  cases live : table.filter fun entry => entry.isVisibleAt frame.location.codeIndex with
  | nil =>
      rw [live] at came
      cases came
      exact List.forall_mem_nil _
  | cons first others =>
      rw [live] at came
      rcases after.of_bind (.ask trivial) came with ⟨values, last, _, later, came⟩
      intro shown member
      rcases later.of_each (fun entry => .showVariable (fun _ _ => trivial) entry) came shown member
        with ⟨entry, before, _, toldBefore, made⟩
      rcases toldBefore.of_bind (composed_convert entry.2) made with ⟨value, _, converted, _, made⟩
      cases made
      exact ⟨entry.2, before, toldBefore, converted⟩

theorem readField_converted (told : NamesTold link start state) {object : ObjectRef} {type : UInt64}
    {field : Wire.FieldInfo} {value : Value}
    (came : (readField link object type field state).outcome = .ok value) :
    Converted link start value := by
  unfold readField at came
  dsimp only at came
  split at came
  all_goals
    rcases told.of_bind (.ask trivial) came with ⟨values, next, _, after, came⟩
    cases values with
    | nil => cases came
    | cons read _ => exact ⟨read, next, after, came⟩

theorem fieldInChain_converted (told : NamesTold link start state) {object : ObjectRef}
    {name : String} {type : UInt64} {chainLimit : Nat} {value : Value}
    (came : (fieldInChain link object name type chainLimit state).outcome = .ok value) :
    Converted link start value := by
  -- The induction is on the classes that may still be searched.
  induction chainLimit generalizing type state with
  | zero => cases came
  | succ chainLimit inductionHypothesis =>
      rcases told.of_bind (.lookUp (.fields type)) came with ⟨declared, next, _, after, came⟩
      cases found : declared.find? fun field => field.name == name with
      | some field =>
          rw [found] at came
          exact readField_converted after came
      | none =>
          rw [found] at came
          rcases after.of_bind (.ask trivial) came with ⟨parent, last, _, later, came⟩
          cases parent with
          | none => cases came
          | some parent => exact inductionHypothesis later came

theorem arrayElement_converted (told : NamesTold link start state) {array : ArrayRef} {index : Nat}
    {value : Value} (came : (arrayElement link array index state).outcome = .ok value) :
    Converted link start value := by
  unfold arrayElement at came
  split at came
  · cases came
  · rcases told.of_bind (.ask trivial) came with ⟨values, next, _, after, came⟩
    cases values with
    | nil => cases came
    | cons read _ => exact ⟨read, next, after, came⟩

theorem arrayValues_converted (told : NamesTold link start state) {array : ArrayRef}
    {values : List Value} (came : (arrayValues link array state).outcome = .ok values) :
    forall value, value ∈ values -> Converted link start value := by
  unfold arrayValues at came
  split at came
  · cases came
    exact List.forall_mem_nil _
  · split at came
    · cases came
    · rcases told.of_bind (.ask trivial) came with ⟨read, next, _, after, came⟩
      intro value member
      rcases after.of_each composed_convert came value member with
        ⟨source, before, _, toldBefore, made⟩
      exact ⟨source, before, toldBefore, made⟩

/-- Every value in an answer has been converted. -/
theorem respond_converted (told : NamesTold link start state) (chainLimit : Nat)
    {request : Request} {answer : request.Answer}
    (came : ((target link chainLimit).respond request state).outcome = .ok answer) :
    forall value, value ∈ valuesIn request answer -> Converted link start value := by
  cases request with
  | visibleVariables thread frame =>
      intro value member
      rcases List.mem_map.mp member with ⟨shown, present, rfl⟩
      exact visibleVariables_converted told came shown present
  | fieldValue object field =>
      exact List.forall_mem_singleton.mpr (fieldInChain_converted told came)
  | arrayElement array index =>
      exact List.forall_mem_singleton.mpr (arrayElement_converted told came)
  | arrayValues array => exact arrayValues_converted told came
  | _ => exact List.forall_mem_nil _

end Answers
end Remote

/-- One dimension more in a signature is one pair of brackets more in the name, and types with
different signatures have different names.  Whatever array a value is converted to, its elements
are shown with the name that belongs to a signature that has been told, without the first bracket,
and so it is with all arrays in the answers to any requests. -/
theorem type_names_follow_signatures :
    (forall signature, TypeName.ofSignature ("[" ++ signature)
      = TypeName.ofSignature signature ++ "[]") ∧
    (forall one other : String, TypeName.Descriptor one.toList ->
      TypeName.Descriptor other.toList ->
      TypeName.ofSignature one = TypeName.ofSignature other -> one = other) ∧
    forall {τ : Type} (link : Link τ) (start : τ),
      (forall state read array, Remote.NamesTold link start state ->
        (Remote.convert link read state).outcome = .ok (.array array) ->
        Remote.ElementsNamed link start array) ∧
      (forall chainLimit requests turn,
        turn ∈ (Remote.target link chainLimit).course requests ⟨start, {}⟩ ->
        Remote.NamesTold link start turn.before ∧
          forall answer, ((Remote.target link chainLimit).result turn).outcome = .ok answer ->
            forall array, Value.array array ∈ Remote.valuesIn turn.request answer ->
            Remote.ElementsNamed link start array) := by
  refine ⟨TypeName.ofSignature_array, ?_, fun link start =>
    ⟨fun _ _ _ told came => Remote.convert_array told came, ?_⟩⟩
  · intro one other first second same
    apply String.toList_inj.mp
    apply TypeName.ofChars_inj first second
    rw [← TypeName.toList_ofSignature, same, TypeName.toList_ofSignature]
  · intro chainLimit requests turn member
    have told : Remote.NamesTold link start turn.before :=
      Target.course_keeps (Remote.NamesTold link start)
        (fun turn now => now.respond chainLimit turn.request) (.fresh link start) turn member
    refine ⟨told, fun answer came array shown => ?_⟩
    rcases Remote.respond_converted told chainLimit came _ shown with
      ⟨read, before, toldBefore, converted⟩
    exact Remote.convert_array toldBefore converted

/-! ## An array inside an array -/

/-- A machine with an array of one element, which is an array of three integers. -/
def nested : Link Unit where
  send command state :=
    let data : List UInt8 :=
      if command.set = 13 ∧ command.code = 2 then
        [0x5B, 0, 0, 0, 1, 0x5B, 0, 0, 0, 0, 0, 0, 0, 9]
      else if command.set = 13 then [0, 0, 0, 3]
      else if command.set = 9 then [3, 0, 0, 0, 0, 0, 0, 0, 5]
      else Wire.textBytes "[I"
    ⟨.ok ⟨0, 0, data⟩, some 0, state⟩
  receive state := (.ok none, state)

/-- The inner array is one of integers, and so is any other that is converted.  Their type would be
called otherwise if it were one of objects of a class. -/
theorem inner_array_follows_its_signature :
    let inner : ArrayRef := ⟨9, "int", 3⟩
    let other : ArrayRef := ⟨4, "int", 3⟩
    let request : Request := .arrayElement ⟨7, "int[]", 1⟩ 0
    let start : Remote Unit := ⟨(), {}⟩
    (⟨start, request⟩ : Turn (Remote Unit)) ∈ (Remote.target nested 1).course [request] start ∧
      ((Remote.target nested 1).respond request start).outcome = .ok (.array inner) ∧
      Remote.ElementsNamed nested () inner ∧
      Remote.NamesTold nested () start ∧
      (Remote.convert nested ⟨.array, .object 4⟩ start).outcome = .ok (.array other) ∧
      Remote.ElementsNamed nested () other ∧
      TypeName.Descriptor "[I".toList ∧ TypeName.Descriptor "[LCalc;".toList ∧
      TypeName.ofSignature "[I" ≠ TypeName.ofSignature "[LCalc;" := by
  intro inner other request start
  rcases type_names_follow_signatures with ⟨-, different, arrays⟩
  have member : (⟨start, request⟩ : Turn (Remote Unit))
      ∈ (Remote.target nested 1).course [request] start := List.mem_cons_self
  have came : (Remote.arrayElement nested ⟨7, "int[]", 1⟩ 0 start).outcome
      = .ok (.array inner) := by
    decide +kernel
  have converted : (Remote.convert nested ⟨.array, .object 4⟩ start).outcome
      = .ok (.array other) := by
    decide +kernel
  have integers : TypeName.Descriptor "[I".toList := .array (.primitive (by decide))
  have objects : TypeName.Descriptor "[LCalc;".toList := by
    have named : TypeName.ClassName ['C', 'a', 'l', 'c'] :=
      ⟨by decide, by decide, by decide, by decide, by decide⟩
    exact .array (.reference named)
  rcases (arrays nested ()).2 1 [request] _ member with ⟨told, answers⟩
  refine ⟨member, came, ?_, told, converted, ?_, integers, objects, fun same => ?_⟩
  · exact answers _ came inner (List.mem_singleton_self _)
  · exact (arrays nested ()).1 start _ other told converted
  · exact absurd (different _ _ integers objects same) (by decide)

end Debuggee
end LineDebugger
