import LineDebugger.Proofs.Session.LineByLine
import LineDebugger.Proofs.Text.Numeral

namespace LineDebugger
namespace Session

open Debuggee

/-!
# Printing a variable

The command `p` asks for the name of a variable, and asks once more if the variable is an array
or an object.  What it does is told here from the outside, as a grammar of its marks: what is
said, what is read and what the target is asked, up to the value or the error in which it ends.

The grammar knows no target.  What the target answers stands in the marks, and any answer may
stand there.  It knows no reader of numerals either: an index is what the digits of the answer
stand for.
-/

variable {σ ε α β : Type}

/-! ## Courses -/

/-- The marks and the outcome of a computation belong to a course, wherever it is started. -/
def Unfolds (act : Dialogue σ ε α) (course : List Mark -> Outcome ε α -> Prop) : Prop :=
  forall situation, course ((act situation).log.map Moment.mark) (act situation).outcome

namespace Unfolds

variable {target : Target σ}

theorem pure {value : α} {course : List Mark -> Outcome ε α -> Prop}
    (ends : course [] (.ok value)) : Unfolds (pure value : Dialogue σ ε α) course :=
  fun _ => ends

theorem fail {error : ε} {course : List Mark -> Outcome ε α -> Prop}
    (ends : course [] (.failed error)) : Unfolds (Act.fail error : Dialogue σ ε α) course :=
  fun _ => ends

theorem say {line : String} {course : List Mark -> Outcome ε Unit -> Prop}
    (ends : course [.said line] (.ok ())) :
    Unfolds (Dialogue.say line : Dialogue σ ε Unit) course :=
  fun _ => ends

/-- The target may answer in any way. -/
theorem ask {request : Request} {course : List Mark -> Outcome TargetError request.Answer -> Prop}
    (ends : forall outcome exchanges, course [.asked request outcome exchanges] outcome) :
    Unfolds (Dialogue.ask target request) course :=
  fun _ => ends _ _

theorem bind {first : Dialogue σ ε α} {next : α -> Dialogue σ ε β}
    {early : List Mark -> Outcome ε α -> Prop} {course : List Mark -> Outcome ε β -> Prop}
    (begins : Unfolds first early)
    (onFailure : forall error own, early own (.failed error) -> course own (.failed error))
    (onWait : forall own, early own .unfinished -> course own .unfinished)
    (onward : forall value own, early own (.ok value) ->
      Unfolds (next value) fun rest => course (own ++ rest)) :
    Unfolds (first >>= next) course := by
  intro situation
  have begun := begins situation
  cases came : first situation with
  | mk outcome own after =>
      rw [came] at begun
      cases outcome with
      | ok value =>
          rw [Act.bind_ok came, Progress.after, List.map_append]
          exact onward value _ begun after
      | failed error =>
          rw [Act.bind_failed came]
          exact onFailure error _ begun
      | unfinished =>
          rw [Act.bind_unfinished came]
          exact onWait _ begun

/-- A part whose failure is restated. -/
theorem bindRestated {δ : Type} {first : Dialogue σ ε α} {restate : ε -> δ}
    {next : α -> Dialogue σ δ β} {early : List Mark -> Outcome ε α -> Prop}
    {course : List Mark -> Outcome δ β -> Prop} (begins : Unfolds first early)
    (onFailure : forall error own, early own (.failed error) ->
      course own (.failed (restate error)))
    (onWait : forall own, early own .unfinished -> course own .unfinished)
    (onward : forall value own, early own (.ok value) ->
      Unfolds (next value) fun rest => course (own ++ rest)) :
    Unfolds (first.mapError restate >>= next) course := by
  have restated : Unfolds (first.mapError restate) fun own outcome =>
      exists stated, early own stated ∧ outcome = stated.mapError restate :=
    fun situation => ⟨_, begins situation, rfl⟩
  refine restated.bind ?_ ?_ ?_
  · rintro _ own ⟨stated, begun, same⟩
    cases stated with
    | failed error => cases same; exact onFailure error own begun
    | _ => cases same
  · rintro own ⟨stated, begun, same⟩
    cases stated with
    | unfinished => exact onWait own begun
    | _ => cases same
  · rintro _ own ⟨stated, begun, same⟩
    cases stated with
    | ok value => cases same; exact onward _ own begun
    | _ => cases same

theorem assoc {γ : Type} {first : Dialogue σ ε α} {next : α -> Dialogue σ ε β}
    {last : β -> Dialogue σ ε γ} {course : List Mark -> Outcome ε γ -> Prop}
    (unfolds : Unfolds (first >>= fun value => next value >>= last) course) :
    Unfolds (first >>= next >>= last) course := by
  rw [Act.bind_assoc]
  exact unfolds

/-- The target is asked, and its failure is final. -/
theorem askFor {request : Request} {next : request.Answer -> Dialogue σ TargetError α}
    {course : List Mark -> Outcome TargetError α -> Prop}
    (onAnswer : forall answer exchanges, Unfolds (next answer) fun rest =>
      course (.asked request (.ok answer) exchanges :: rest))
    (onFailure : forall error exchanges,
      course [.asked request (.failed error) exchanges] (.failed error))
    (onWait : forall exchanges, course [.asked request .unfinished exchanges] .unfinished) :
    Unfolds (Dialogue.ask target request >>= next) course := by
  have asked : Unfolds (Dialogue.ask target request) fun own outcome =>
      exists exchanges, own = [.asked request outcome exchanges] :=
    .ask fun _ exchanges => ⟨exchanges, rfl⟩
  refine asked.bind ?_ ?_ ?_
  · rintro error _ ⟨exchanges, rfl⟩
    exact onFailure error exchanges
  · rintro _ ⟨exchanges, rfl⟩
    exact onWait exchanges
  · rintro answer _ ⟨exchanges, rfl⟩
    exact onAnswer answer exchanges

/-- The target is asked, and failures are handled like answers. -/
theorem tryAsk {request : Request}
    {handler : Except TargetError request.Answer -> Dialogue σ ε α}
    {course : List Mark -> Outcome ε α -> Prop}
    (onAnswer : forall answer exchanges, Unfolds (handler (.ok answer)) fun rest =>
      course (.asked request (.ok answer) exchanges :: rest))
    (onFailure : forall error exchanges, Unfolds (handler (.error error)) fun rest =>
      course (.asked request (.failed error) exchanges :: rest))
    (onWait : forall exchanges, course [.asked request .unfinished exchanges] .unfinished) :
    Unfolds ((Dialogue.ask target request).attempt >>= handler) course := by
  intro situation
  have asked : Dialogue.ask target request situation
      = ⟨(target.respond request situation.target).outcome, [.asking target request situation],
        situation.answered target request⟩ := rfl
  cases responded : (target.respond request situation.target).outcome with
  | ok answer =>
      rw [responded, Moment.asking_eq responded] at asked
      rw [Act.bind_ok (Act.attempt_ok asked)]
      exact onAnswer answer _ _
  | failed error =>
      rw [responded, Moment.asking_eq responded] at asked
      rw [Act.bind_ok (Act.attempt_failed asked)]
      exact onFailure error _ _
  | unfinished =>
      rw [responded, Moment.asking_eq responded] at asked
      rw [Act.bind_unfinished (Act.attempt_unfinished asked)]
      exact onWait _

end Unfolds

/-! ## The text of a value -/

/-- How the text of a value is found.  The elements of an array are asked for; where they cannot
be had, the compact text stands in, unless the debuggee is gone. -/
inductive Rendered : Value -> List Mark -> Outcome TargetError String -> Prop where
  | plain {value : Value} : (forall array, value ≠ .array array) ->
      Rendered value [] (.ok value.render)
  | elements {array : ArrayRef} {elements : List Value} {exchanges} :
      Rendered (.array array) [.asked (.arrayValues array) (.ok elements) exchanges]
        (.ok (Value.renderElements elements))
  | compact {array : ArrayRef} {error : TargetError} {exchanges} : error.isDisconnect = false ->
      Rendered (.array array) [.asked (.arrayValues array) (.failed error) exchanges]
        (.ok (Value.array array).render)
  | lost {array : ArrayRef} {error : TargetError} {exchanges} : error.isDisconnect = true ->
      Rendered (.array array) [.asked (.arrayValues array) (.failed error) exchanges]
        (.failed error)
  | waits {array : ArrayRef} {exchanges} :
      Rendered (.array array) [.asked (.arrayValues array) .unfinished exchanges] .unfinished

theorem renderValue_unfolds (target : Target σ) (value : Value) :
    Unfolds (renderValue target value) (Rendered value) := by
  cases value with
  | array array =>
      refine .tryAsk (fun elements exchanges => .pure .elements) (fun error exchanges => ?_)
        fun exchanges => .waits
      cases gone : error.isDisconnect with
      | true =>
          simp only [gone, if_true]
          exact .fail (.lost gone)
      | false =>
          simp only [gone, Bool.false_eq_true, if_false]
          exact .pure (.compact gone)
  | _ => exact .pure (.plain (by intro array impossible; cases impossible))

/-! ## The variables in sight -/

/-- How the variables in sight are read: the innermost frame is asked for, and then what is
visible in it. -/
inductive LocalsRead (thread : UInt64) :
    List Mark -> Outcome TargetError (List LocalVariable) -> Prop where
  | noFrames {error : TargetError} {exchanges} :
      LocalsRead thread [.asked (.frames thread (some 1)) (.failed error) exchanges]
        (.failed error)
  | noFrame {exchanges} :
      LocalsRead thread [.asked (.frames thread (some 1)) (.ok []) exchanges]
        (.failed (.noSuchElement "thread has no frames"))
  | framesWait {exchanges} :
      LocalsRead thread [.asked (.frames thread (some 1)) .unfinished exchanges] .unfinished
  | innermost {frame : StackFrame} {others : List StackFrame} {exchanges outcome more} :
      LocalsRead thread
        [.asked (.frames thread (some 1)) (.ok (frame :: others)) exchanges,
          .asked (.visibleVariables thread frame) outcome more]
        outcome

theorem frameVariables_unfolds (target : Target σ) (thread : UInt64) :
    Unfolds (frameVariables target thread) (LocalsRead thread) := by
  refine .assoc (.askFor ?_ (fun error exchanges => .noFrames) fun exchanges => .framesWait)
  intro frames exchanges
  cases frames with
  | nil => exact fun _ => .noFrame
  | cons frame others => exact .ask fun outcome more => .innermost

/-- The first variable of a name. -/
def FirstNamed (name : String) (visible : List LocalVariable) (shown : LocalVariable) : Prop :=
  exists front back, visible = front ++ shown :: back ∧ shown.name = name ∧
    forall other, other ∈ front -> other.name ≠ name

theorem find?_eq_some_iff {name : String} {visible : List LocalVariable} {shown : LocalVariable} :
    (visible.find? fun other => other.name == name) = some shown ↔
      FirstNamed name visible shown := by
  simp only [List.find?_eq_some_iff_append, beq_iff_eq, Bool.not_eq_true', beq_eq_false_iff_ne]
  constructor
  · rintro ⟨named, front, back, split, others⟩
    exact ⟨front, back, split, named, others⟩
  · rintro ⟨front, back, split, named, others⟩
    exact ⟨named, front, back, split, others⟩

theorem find?_eq_none_iff {name : String} {visible : List LocalVariable} :
    (visible.find? fun other => other.name == name) = none ↔
      forall other, other ∈ visible -> other.name ≠ name := by
  simp only [List.find?_eq_none, beq_iff_eq]

/-! ## The two further questions -/

/-- How an element is printed, with these lines left to answer the question for its index. -/
inductive ElementPrinted (name : String) (array : ArrayRef) :
    List String -> List Mark -> Outcome CommandError (Option Handover) -> Prop where
  | unanswered : ElementPrinted name array [] [.read none] (.ok (some .exited))
  | malformed {line : String} {others : List String} :
      (forall index : Int64, ¬ Text.SignedDigits (Text.trim line).toList index.toInt) ->
      ElementPrinted name array (line :: others) [.read (some line)]
        (.failed (.malformedNumber (Text.trim line)))
  | outside {line : String} {others : List String} {index : Int64} :
      Text.SignedDigits (Text.trim line).toList index.toInt ->
      ¬ (0 ≤ index.toInt ∧ index.toInt < array.length) ->
      ElementPrinted name array (line :: others) [.read (some line)]
        (.failed (.indexOutOfRange index array.length))
  | element {line : String} {others : List String} {index : Int64} {position : Nat}
      {element : Value} {exchanges} :
      Text.SignedDigits (Text.trim line).toList index.toInt ->
      index.toInt = position -> position < array.length ->
      ElementPrinted name array (line :: others)
        [.read (some line), .asked (.arrayElement array position) (.ok element) exchanges,
          .said s!"{name}[{position}]: {element.render}"]
        (.ok none)
  | refused {line : String} {others : List String} {index : Int64} {position : Nat}
      {error : TargetError} {exchanges} :
      Text.SignedDigits (Text.trim line).toList index.toInt ->
      index.toInt = position -> position < array.length ->
      ElementPrinted name array (line :: others)
        [.read (some line), .asked (.arrayElement array position) (.failed error) exchanges]
        (.failed (.target error))
  | waits {line : String} {others : List String} {index : Int64} {position : Nat} {exchanges} :
      Text.SignedDigits (Text.trim line).toList index.toInt ->
      index.toInt = position -> position < array.length ->
      ElementPrinted name array (line :: others)
        [.read (some line), .asked (.arrayElement array position) .unfinished exchanges]
        .unfinished

/-- How a field is printed, with these lines left to answer the question for its name. -/
inductive FieldPrinted (name : String) (object : ObjectRef) :
    List String -> List Mark -> Outcome CommandError (Option Handover) -> Prop where
  | unanswered : FieldPrinted name object [] [.read none] (.ok (some .exited))
  | field {line : String} {others : List String} {value : Value} {own : List Mark}
      {text : String} {exchanges} : Rendered value own (.ok text) ->
      FieldPrinted name object (line :: others)
        (.read (some line) ::
          .asked (.fieldValue object (Text.trim line)) (.ok value) exchanges ::
          (own ++ [.said (name ++ "." ++ Text.trim line ++ ": " ++ text)]))
        (.ok none)
  | unrendered {line : String} {others : List String} {value : Value} {own : List Mark}
      {error : TargetError} {exchanges} : Rendered value own (.failed error) ->
      FieldPrinted name object (line :: others)
        (.read (some line) ::
          .asked (.fieldValue object (Text.trim line)) (.ok value) exchanges :: own)
        (.failed (.target error))
  | renderingWaits {line : String} {others : List String} {value : Value} {own : List Mark}
      {exchanges} : Rendered value own .unfinished ->
      FieldPrinted name object (line :: others)
        (.read (some line) ::
          .asked (.fieldValue object (Text.trim line)) (.ok value) exchanges :: own)
        .unfinished
  | absent {line : String} {others : List String} {reason : String} {exchanges} :
      FieldPrinted name object (line :: others)
        [.read (some line),
          .asked (.fieldValue object (Text.trim line)) (.failed (.noSuchElement reason)) exchanges]
        (.failed (.noSuchField (Text.trim line)))
  | refused {line : String} {others : List String} {error : TargetError} {exchanges} :
      (forall reason, error ≠ .noSuchElement reason) ->
      FieldPrinted name object (line :: others)
        [.read (some line),
          .asked (.fieldValue object (Text.trim line)) (.failed error) exchanges]
        (.failed (.target error))
  | waits {line : String} {others : List String} {exchanges} :
      FieldPrinted name object (line :: others)
        [.read (some line), .asked (.fieldValue object (Text.trim line)) .unfinished exchanges]
        .unfinished

/-! ## The whole command -/

/-- What follows once the variables in sight have been read, or not. -/
inductive VariablePrinted (name : String) (lines : List String) :
    Outcome TargetError (List LocalVariable) -> List Mark ->
      Outcome CommandError (Option Handover) -> Prop where
  | unreadable {error : TargetError} :
      VariablePrinted name lines (.failed error) [] (.failed (.target error))
  | waits : VariablePrinted name lines .unfinished [] .unfinished
  | unknown {visible : List LocalVariable} :
      (forall other, other ∈ visible -> other.name ≠ name) ->
      VariablePrinted name lines (.ok visible) [] (.failed (.noSuchVariable name))
  | element {visible : List LocalVariable} {shown : LocalVariable} {array : ArrayRef}
      {rest : List Mark} {outcome} :
      FirstNamed name visible shown -> shown.value = .array array ->
      ElementPrinted name array lines rest outcome ->
      VariablePrinted name lines (.ok visible)
        (.said "Which index of the array should be printed?" :: rest) outcome
  | field {visible : List LocalVariable} {shown : LocalVariable} {object : ObjectRef}
      {rest : List Mark} {outcome} :
      FirstNamed name visible shown -> shown.value = .object object ->
      FieldPrinted name object lines rest outcome ->
      VariablePrinted name lines (.ok visible)
        (.said "Which field should be printed?" :: rest) outcome
  | value {visible : List LocalVariable} {shown : LocalVariable} :
      FirstNamed name visible shown -> (forall array, shown.value ≠ .array array) ->
      (forall object, shown.value ≠ .object object) ->
      VariablePrinted name lines (.ok visible) [.said (name ++ ": " ++ shown.value.render)]
        (.ok none)

/-- How the command to print is carried out at a halt, or where there is none, with these lines
left to answer its questions. -/
inductive Printed : Option HaltContext -> List String -> List Mark ->
    Outcome CommandError (Option Handover) -> Prop where
  | running {lines : List String} : Printed none lines [] (.failed .noContext)
  | unanswered {context : HaltContext} :
      Printed (some context) [] [.said "Insert variable name to print", .read none]
        (.ok (some .exited))
  | named {context : HaltContext} {line : String} {others : List String}
      {own rest : List Mark} {locals outcome} :
      LocalsRead context.thread own locals ->
      VariablePrinted (Text.trim line) others locals rest outcome ->
      Printed (some context) (line :: others)
        (.said "Insert variable name to print" :: .read (some line) :: (own ++ rest)) outcome

section Courses

variable {target : Target σ}

/-- An answer is taken before anything else is done. -/
theorem settle_answered {mode : Mode} (asked : mode ≠ .command) {line : String}
    {others : List String} {course : List Mark -> Outcome CommandError (Option Handover) -> Prop}
    (unfolds : Unfolds (mode.take target line >>= settle target others) fun rest =>
      course (.read (some line) :: rest)) :
    Unfolds (settle target (line :: others) (.expect mode)) course := by
  intro situation
  rw [settle_cons asked]
  exact unfolds _

/-- A question is said before its answer is taken. -/
theorem settle_question {text : String} {mode : Mode} {lines : List String}
    {course : List Mark -> Outcome CommandError (Option Handover) -> Prop}
    (unfolds : Unfolds (settle target lines (.expect mode)) fun rest =>
      course (.said text :: rest)) :
    Unfolds (question text mode >>= settle target lines) course :=
  fun situation => unfolds situation

/-- Something that raises no question settles nothing further. -/
theorem settle_plainly {act : Dialogue σ CommandError Unit} {others : List String}
    {course : List Mark -> Outcome CommandError (Option Handover) -> Prop}
    (unfolds : Unfolds act fun own outcome => course own (outcome.map fun _ => none)) :
    Unfolds (plainly act >>= settle target others) course := by
  intro situation
  rw [settle_after_plainly]
  exact unfolds situation

theorem printElement_unfolds (name : String) (array : ArrayRef) (line : String)
    (others : List String) :
    Unfolds (printElement target name array (Text.trim line)) fun own outcome =>
      ElementPrinted name array (line :: others) (.read (some line) :: own)
        (outcome.map fun _ => none) := by
  unfold printElement
  cases read : Text.Numeral.signed64? (Text.trim line) with
  | none => exact .fail (.malformed (Text.Numeral.signed64?_eq_none_iff.mp read))
  | some index =>
      have numeral := Text.Numeral.signed64?_eq_some_iff.mp read
      dsimp only
      split
      · next inside =>
          have position : index.toInt = index.toInt.toNat := (Int.toNat_of_nonneg inside.1).symm
          have bounded : index.toInt.toNat < array.length := by omega
          have asked : Unfolds (Dialogue.ask target (.arrayElement array index.toInt.toNat))
              fun own answered => exists exchanges,
                own = [.asked (.arrayElement array index.toInt.toNat) answered exchanges] :=
            .ask fun _ exchanges => ⟨exchanges, rfl⟩
          refine asked.bindRestated ?_ ?_ ?_
          · rintro error _ ⟨exchanges, rfl⟩
            exact .refused numeral position bounded
          · rintro _ ⟨exchanges, rfl⟩
            exact .waits numeral position bounded
          · rintro element _ ⟨exchanges, rfl⟩
            exact .say (.element numeral position bounded)
      · next outside => exact .fail (.outside numeral outside)

theorem printField_unfolds (name : String) (object : ObjectRef) (line : String)
    (others : List String) :
    Unfolds (printField target name object (Text.trim line)) fun own outcome =>
      FieldPrinted name object (line :: others) (.read (some line) :: own)
        (outcome.map fun _ => none) := by
  refine .tryAsk (fun value exchanges => ?_) (fun error exchanges => ?_) fun exchanges => .waits
  · exact .bindRestated (renderValue_unfolds target value) (fun error own => .unrendered)
      (fun own => .renderingWaits) fun text own found => .say (.field found)
  · cases error with
    | noSuchElement reason => exact .fail .absent
    | _ => exact .fail (.refused (by intro reason impossible; cases impossible))

/-- The answer to the question for an index. -/
theorem settle_index (name : String) (array : ArrayRef) (lines : List String) :
    Unfolds (settle target lines (.expect (.indexToPrint name array)))
      (ElementPrinted name array lines) := by
  cases lines with
  | nil =>
      intro situation
      exact .unanswered
  | cons line others =>
      exact settle_answered (Mode.ne_command rfl)
        (settle_plainly (printElement_unfolds name array line others))

/-- The answer to the question for a field. -/
theorem settle_field (name : String) (object : ObjectRef) (lines : List String) :
    Unfolds (settle target lines (.expect (.fieldToPrint name object)))
      (FieldPrinted name object lines) := by
  cases lines with
  | nil =>
      intro situation
      exact .unanswered
  | cons line others =>
      exact settle_answered (Mode.ne_command rfl)
        (settle_plainly (printField_unfolds name object line others))

theorem printVariable_unfolds (target : Target σ) (context : HaltContext) (name : String)
    (lines : List String) :
    Unfolds (printVariable target context name >>= settle target lines) fun marks outcome =>
      exists own rest locals, marks = own ++ rest ∧ LocalsRead context.thread own locals ∧
        VariablePrinted name lines locals rest outcome := by
  refine .assoc (.bindRestated (frameVariables_unfolds target context.thread) ?_ ?_ ?_)
  · exact fun error own read => ⟨own, [], _, (List.append_nil own).symm, read, .unreadable⟩
  · exact fun own read => ⟨own, [], _, (List.append_nil own).symm, read, .waits⟩
  · intro visible own read
    cases found : visible.find? fun shown => shown.name == name with
    | none =>
        exact fun _ => ⟨own, _, _, rfl, read, .unknown (find?_eq_none_iff.mp found)⟩
    | some shown =>
        have first := find?_eq_some_iff.mp found
        obtain ⟨shownName, declaredType, value⟩ := shown
        have plain (others : forall array, value ≠ .array array)
            (noObject : forall object, value ≠ .object object) :
            VariablePrinted name lines (.ok visible) [.said (name ++ ": " ++ value.render)]
              (.ok none) := .value first others noObject
        cases value with
        | array array =>
            exact settle_question fun situation =>
              ⟨own, _, _, rfl, read, .element first rfl (settle_index name array lines situation)⟩
        | object object =>
            exact settle_question fun situation =>
              ⟨own, _, _, rfl, read, .field first rfl (settle_field name object lines situation)⟩
        | _ =>
            refine settle_plainly (.say ⟨own, _, _, rfl, read, plain ?_ ?_⟩)
            · intro array impossible
              cases impossible
            · intro object impossible
              cases impossible

/-- The answer to the question for a variable. -/
theorem settle_variable (context : HaltContext) (lines : List String) :
    Unfolds (settle target lines (.expect (.variableToPrint context))) fun own outcome =>
      Printed (some context) lines (.said "Insert variable name to print" :: own) outcome := by
  cases lines with
  | nil =>
      intro situation
      exact .unanswered
  | cons line others =>
      refine settle_answered (Mode.ne_command rfl) fun situation => ?_
      obtain ⟨own, rest, locals, split, read, follows⟩ :=
        printVariable_unfolds target context (Text.trim line) others situation
      exact split ▸ .named read follows

theorem carryOut_print (situation : Situation σ) :
    Printed situation.records.context situation.input
      ((carryOut target .print situation).log.map Moment.mark)
      (carryOut target .print situation).outcome := by
  cases halted : situation.records.context with
  | none =>
      have ran : carryOut target .print situation = ⟨.failed .noContext, [], situation⟩ :=
        Act.bind_failed (Act.bind_failed (haltContext_running halted) _) _
      rw [ran]
      exact .running
  | some context =>
      have asks : carryOut target .print situation
          = (question "Insert variable name to print" (.variableToPrint context)
              >>= settle target situation.input) situation := by
        rw [carryOut, execute, Act.bind_assoc, Act.bind_ok (haltContext_halted halted)]
        rfl
      rw [asks]
      exact settle_question (settle_variable context situation.input) situation

end Courses

/-! ## Elements asked for -/

/-- Whether an element of an array is asked for. -/
def Mark.readsElement : Mark -> Bool
  | .asked (.arrayElement _ _) _ _ => true
  | _ => false

/-- One element is asked for at most, and it is one that the array has. -/
def OneElement (marks : List Mark) : Prop :=
  marks.filter Mark.readsElement = [] ∨
    exists array position answered exchanges, position < array.length ∧
      marks.filter Mark.readsElement
        = [.asked (.arrayElement array position) answered exchanges]

variable {name : String} {lines : List String} {marks : List Mark}

theorem Rendered.noElement {value : Value} {outcome} (rendered : Rendered value marks outcome) :
    marks.filter Mark.readsElement = [] := by
  cases rendered <;> rfl

theorem LocalsRead.noElement {thread : UInt64} {outcome}
    (read : LocalsRead thread marks outcome) : marks.filter Mark.readsElement = [] := by
  cases read <;> rfl

theorem FieldPrinted.noElement {object : ObjectRef} {outcome}
    (printed : FieldPrinted name object lines marks outcome) :
    marks.filter Mark.readsElement = [] := by
  cases printed with
  | field rendered =>
      refine (List.filter_append _ _).trans ?_
      rw [rendered.noElement]
      rfl
  | unrendered rendered => exact rendered.noElement
  | renderingWaits rendered => exact rendered.noElement
  | _ => rfl

theorem ElementPrinted.oneElement {array : ArrayRef} {outcome}
    (printed : ElementPrinted name array lines marks outcome) : OneElement marks := by
  cases printed with
  | element _ _ bounded => exact .inr ⟨array, _, _, _, bounded, rfl⟩
  | refused _ _ bounded => exact .inr ⟨array, _, _, _, bounded, rfl⟩
  | waits _ _ bounded => exact .inr ⟨array, _, _, _, bounded, rfl⟩
  | _ => exact .inl rfl

/-- An element is asked for just when the answer is a signed number of 64 bits that is a position
in the array. -/
theorem ElementPrinted.asks_iff {array : ArrayRef} {line : String} {others : List String} {outcome}
    (printed : ElementPrinted name array (line :: others) marks outcome) :
    marks.filter Mark.readsElement ≠ [] ↔
      exists index : Int64, Text.SignedDigits (Text.trim line).toList index.toInt ∧
        0 ≤ index.toInt ∧ index.toInt < array.length := by
  have asked {index : Int64} {position : Nat}
      (numeral : Text.SignedDigits (Text.trim line).toList index.toInt)
      (same : index.toInt = position) (bounded : position < array.length) :
      exists index : Int64, Text.SignedDigits (Text.trim line).toList index.toInt ∧
        0 ≤ index.toInt ∧ index.toInt < array.length :=
    ⟨index, numeral, by omega, by omega⟩
  cases printed with
  | malformed none =>
      exact ⟨fun asks => absurd rfl asks, fun ⟨index, numeral, _⟩ => absurd numeral (none index)⟩
  | outside numeral outside =>
      refine ⟨fun asks => absurd rfl asks, fun ⟨index, alsoNumeral, inside⟩ => ?_⟩
      cases numeral.unique alsoNumeral
      exact absurd inside outside
  | element numeral same bounded =>
      exact ⟨fun _ => asked numeral same bounded, fun _ => List.cons_ne_nil _ _⟩
  | refused numeral same bounded =>
      exact ⟨fun _ => asked numeral same bounded, fun _ => List.cons_ne_nil _ _⟩
  | waits numeral same bounded =>
      exact ⟨fun _ => asked numeral same bounded, fun _ => List.cons_ne_nil _ _⟩

theorem VariablePrinted.oneElement {locals outcome}
    (printed : VariablePrinted name lines locals marks outcome) : OneElement marks := by
  cases printed with
  | element _ _ element => exact element.oneElement
  | field _ _ field => exact .inl field.noElement
  | _ => exact .inl rfl

theorem Printed.oneElement {halted : Option HaltContext} {outcome}
    (printed : Printed halted lines marks outcome) : OneElement marks := by
  cases printed with
  | @named _ line _ own rest _ _ read follows =>
      have same : (.said "Insert variable name to print" :: .read (some line) ::
          (own ++ rest)).filter Mark.readsElement = rest.filter Mark.readsElement := by
        refine (List.filter_append own rest).trans ?_
        rw [read.noElement, List.nil_append]
      rw [OneElement, same]
      exact follows.oneElement
  | _ => exact .inl rfl

/-- The command `p`, whatever variables are visible, whatever the operator answers and whatever
the target does.  The first variable of the name in the answer is printed.  If there is none, or
if the variables cannot be read, nothing further is asked of anyone.  Of an array, the element is
asked for whose index the digits of the answer stand for, if it is a signed number of 64 bits and
the array has this element, and nothing is asked for otherwise.  Of an object, the field is asked
for that the answer names.  No element is ever asked for that its array does not have. -/
theorem print_asks_for_what_there_is (target : Target σ) (situation : Situation σ) :
    Printed situation.records.context situation.input
        ((carryOut target .print situation).log.map Moment.mark)
        (carryOut target .print situation).outcome ∧
      OneElement ((carryOut target .print situation).log.map Moment.mark) ∧
      forall name array line others marks outcome,
        ElementPrinted name array (line :: others) marks outcome ->
        (marks.filter Mark.readsElement ≠ [] ↔
          exists index : Int64, Text.SignedDigits (Text.trim line).toList index.toInt ∧
            0 ≤ index.toInt ∧ index.toInt < array.length) :=
  ⟨carryOut_print situation, (carryOut_print situation).oneElement,
    fun _ _ _ _ _ _ printed => printed.asks_iff⟩

end Session
end LineDebugger
