import LineDebugger.Proofs.Debuggee.Composition
import Mathlib.Data.List.Forall2

namespace LineDebugger
namespace Debuggee
namespace Remote

open Connection

/-!
# Variables and their slots

The variables of a frame come together from two answers.  A table says which variables there
are, where each one lives, and for which stretch of code; one command then reads the slots of
those that are live, and its reply lists bare values.  Nothing but the position ties a value
to a name.  So the entries that the slots are asked for and the entries that the values are
shown under have to be the same list, and a reply of the wrong length must not shift it.

To make a value ready to be shown may take further commands, and each of them may change the
virtual machine.  `Shown` keeps track of this: every value is converted where the one before
it has left off.
-/

variable {τ : Type} {link : Link τ}

/-! ## What is asked for -/

/-- The entries of a table that are live at a code index. -/
def liveAt (index : UInt64) (table : List Wire.Variable) : List Wire.Variable :=
  table.filter fun entry => entry.codeIndex.toNat ≤ index.toNat ∧
    index.toNat < entry.codeIndex.toNat + entry.length.toNat

/-- The stretch of code that the entry names does not run past the last code index. -/
def EndsInRange (entry : Wire.Variable) : Prop :=
  entry.codeIndex.toNat + entry.length.toNat < UInt64.size

/-- Then the end of the stretch is where it should be, even though it is a sum of machine words. -/
theorem EndsInRange.toNat_end {entry : Wire.Variable} (ends : EndsInRange entry) :
    (entry.codeIndex + entry.length.toUInt64).toNat
      = entry.codeIndex.toNat + entry.length.toNat := by
  rw [UInt64.toNat_add, UInt32.toNat_toUInt64]
  exact Nat.mod_eq_of_lt ends

theorem filter_isVisibleAt {table : List Wire.Variable}
    (ends : forall entry, entry ∈ table -> EndsInRange entry) (index : UInt64) :
    (table.filter fun entry => entry.isVisibleAt index) = liveAt index table := by
  refine List.filter_congr fun entry there => ?_
  simp only [Wire.Variable.isVisibleAt, UInt64.le_iff_toNat_le, UInt64.lt_iff_toNat_lt,
    (ends entry there).toNat_end, Bool.decide_and]

/-- The query is for the slot of the entry.  Its letter is the first byte of the signature, and
that of an object if there is none. -/
structure AsksFor (entry : Wire.Variable) (query : Wire.SlotQuery) : Prop where
  slot : query.slot = entry.slot.toInt32
  letter : (Text.Utf8.encode entry.signature = [] ∧ query.letter = 0x4C) ∨
    exists others, Text.Utf8.encode entry.signature = query.letter :: others

theorem slotQuery_asksFor (entry : Wire.Variable) : AsksFor entry (slotQuery entry) := by
  refine ⟨rfl, ?_⟩
  unfold slotQuery
  cases Text.Utf8.encode entry.signature with
  | nil => exact Or.inl ⟨rfl, rfl⟩
  | cons letter others => exact Or.inr ⟨others, rfl⟩

/-- The command reads slots of a frame. -/
def ReadsFrame (command : Wire.Command) : Prop := command.set = 16 ∧ command.code = 1

/-- Among the calls that are put for variables, only one reads slots. -/
theorem not_readsFrame {question : Wire.Call}
    (other : question.explains = true ∨ question.isLookup = true) :
    ¬ ReadsFrame question.command := by
  rintro ⟨set, _⟩
  cases question with
  | frameValues thread frame slots => rcases other with other | other <;> cases other
  | _ => simp [Wire.Call.command] at set

/-! ## What is shown -/

/-- The variable has the name and the type of the entry, and its value has been made from the one
that was read. -/
structure ShownAs (link : Link τ) (entry : Wire.Variable) (read : Wire.Value)
    (shownVariable : LocalVariable) : Prop where
  name : shownVariable.name = entry.name
  declaredType : shownVariable.declaredType = TypeName.ofSignature entry.signature
  value : exists before exchanges after,
    convert link read before = ⟨.ok shownVariable.value, exchanges, after⟩

/-- The values are shown one after another, each under the name and type of the entry in its
place.  What is left over on either side is left out. -/
inductive Shown (link : Link τ) : List Wire.Variable -> List Wire.Value -> Remote τ ->
    List Exchange -> List LocalVariable -> Prop where
  | noEntry {values : List Wire.Value} {state : Remote τ} : Shown link [] values state [] []
  | noValue {entries : List Wire.Variable} {state : Remote τ} : Shown link entries [] state [] []
  | pair {entry : Wire.Variable} {entries : List Wire.Variable} {read : Wire.Value}
      {values : List Wire.Value} {state next : Remote τ} {own rest : List Exchange}
      {value : Value} {locals : List LocalVariable}
      (converted : convert link read state = ⟨.ok value, own, next⟩)
      (others : Shown link entries values next rest locals) :
      Shown link (entry :: entries) (read :: values) state (own ++ rest)
        (⟨entry.name, TypeName.ofSignature entry.signature, value⟩ :: locals)

namespace Shown

variable {entries : List Wire.Variable} {values : List Wire.Value} {state : Remote τ}
  {own : List Exchange} {locals : List LocalVariable}

theorem length (shown : Shown link entries values state own locals) :
    locals.length = min values.length entries.length := by
  induction shown with
  | noEntry => exact (Nat.min_zero _).symm
  | noValue => exact (Nat.zero_min _).symm
  | pair converted others inductionHypothesis =>
      rw [List.length_cons, List.length_cons, List.length_cons, inductionHypothesis,
        Nat.add_min_add_right]

/-- So every variable is shown with the value from its own place. -/
theorem nth (shown : Shown link entries values state own locals) {place : Nat}
    {shownVariable : LocalVariable} (there : locals[place]? = some shownVariable) :
    exists entry read, entries[place]? = some entry ∧ values[place]? = some read ∧
      ShownAs link entry read shownVariable := by
  induction shown generalizing place with
  | noEntry => cases there
  | noValue => cases there
  | pair converted others inductionHypothesis =>
      cases place with
      | zero =>
          cases there
          exact ⟨_, _, rfl, rfl, rfl, rfl, _, _, _, converted⟩
      | succ place => exact inductionHypothesis there

end Shown

theorem showVariable_reaches (entry : Wire.Variable) (read : Wire.Value) (past : List Exchange)
    (state : Remote τ) :
    (showVariable link (entry, read)).Reaches (.anyway fun _ => True)
      (fun shownVariable log next => exists own value, log = past ++ own ∧
        shownVariable = ⟨entry.name, TypeName.ofSignature entry.signature, value⟩ ∧
        convert link read state = ⟨.ok value, own, next⟩) past state := by
  have converted : (convert link read).Reaches (.anyway fun _ => True)
      (fun value log next => exists own, log = past ++ own ∧
        convert link read state = ⟨.ok value, own, next⟩) past state :=
    Act.reaches_own.imp (fun _ _ _ _ => trivial) (fun _ _ => trivial) fun _ _ _ came => came
  refine converted.bind fun value log next came => Act.reaches_pure.mpr ?_
  obtain ⟨own, rfl, ran⟩ := came
  exact ⟨own, value, rfl, rfl, ran⟩

/-- The induction is on the entries, and it goes on as long as there are values. -/
theorem each_shown (entries : List Wire.Variable) (values : List Wire.Value)
    (past : List Exchange) (state : Remote τ) :
    (Act.each (showVariable link) (entries.zip values)).Reaches (.anyway fun _ => True)
      (fun locals log _ => exists own, log = past ++ own ∧
        Shown link entries values state own locals) past state := by
  induction entries generalizing values past state with
  | nil => exact Act.reaches_pure.mpr ⟨[], (List.append_nil past).symm, .noEntry⟩
  | cons entry entries inductionHypothesis =>
      cases values with
      | nil => exact Act.reaches_pure.mpr ⟨[], (List.append_nil past).symm, .noValue⟩
      | cons read values =>
          refine (showVariable_reaches entry read past state).bind fun _ log next shown => ?_
          obtain ⟨own, value, rfl, rfl, converted⟩ := shown
          refine (inductionHypothesis values _ next).bind fun locals log after others => ?_
          obtain ⟨rest, rfl, others⟩ := others
          exact Act.reaches_pure.mpr ⟨own ++ rest, List.append_assoc _ _ _, .pair converted others⟩

/-! ## The variables of a frame -/

/-- There is something to read, and after what was done `earlier` one command reads it. -/
structure ReadsSlots (link : Link τ) (thread : UInt64) (frame : StackFrame)
    (live : List Wire.Variable) (earlier : List Exchange) (looked : Remote τ)
    (slots : List Wire.SlotQuery) (rest : List Exchange)
    (result : Progress (Remote τ) Exchange TargetError (List LocalVariable)) : Prop where
  asks : List.Forall₂ AsksFor live slots
  log : result.log =
    earlier ++ link.mark (Wire.Call.frameValues thread frame.id slots).command looked.link :: rest
  once : forall exchange, exchange ∈ earlier ++ rest -> ¬ ReadsFrame exchange.command
  shown : forall locals, result.outcome = .ok locals -> exists values : List Wire.Value,
    (call link (.frameValues thread frame.id slots) looked).outcome = .ok values ∧
      Shown link live values (call link (.frameValues thread frame.id slots) looked).state rest
        locals ∧
      locals.length = min values.length live.length ∧
      forall (place : Nat) shownVariable, locals[place]? = some shownVariable ->
        exists entry read, live[place]? = some entry ∧ values[place]? = some read ∧
          ShownAs link entry read shownVariable

/-- The table is looked up without reading a slot. -/
theorem lookUp_not_readsFrame (lookup : Lookup) (present : Remote τ) :
    forall exchange, exchange ∈ (lookup.act link present).log -> ¬ ReadsFrame exchange.command :=
  have composed : Composed link (fun _ => False) (fun _ _ => False) (lookup.act link) :=
    .lookUp lookup
  composed.marks (fun command => ¬ ReadsFrame command)
    (fun _ permitted => not_readsFrame (permitted.imp_left False.elim)) present

/-- Neither does it take a slot to make a value ready to be shown. -/
theorem each_not_readsFrame (entries : List (Wire.Variable × Wire.Value)) (present : Remote τ) :
    forall exchange, exchange ∈ (Act.each (showVariable link) entries present).log ->
      ¬ ReadsFrame exchange.command :=
  have composed : Composed link (fun question => question.explains = true) (fun _ _ => False)
      (Act.each (showVariable link) entries) :=
    .each fun entry _ => .showVariable (fun _ explains => explains) entry
  composed.marks (fun command => ¬ ReadsFrame command) (fun _ => not_readsFrame) present

theorem readSlots (thread : UInt64) (frame : StackFrame) (live : List Wire.Variable)
    {earlier : List Exchange} (looked : Remote τ)
    (unread : forall exchange, exchange ∈ earlier -> ¬ ReadsFrame exchange.command) :
    exists slots rest, ReadsSlots link thread frame live earlier looked slots rest
      (((call link (.frameValues thread frame.id (live.map slotQuery)) >>=
        fun values : List Wire.Value =>
          Act.each (showVariable link) (live.zip values)) looked).after earlier) := by
  have asks : List.Forall₂ AsksFor live (live.map slotQuery) :=
    List.forall₂_map_right_iff.mpr (List.forall₂_same.mpr fun entry _ => slotQuery_asksFor entry)
  have sent := call_eq link (.frameValues thread frame.id (live.map slotQuery)) looked
  have once : forall exchange, exchange ∈ earlier ++ [] -> ¬ ReadsFrame exchange.command := by
    rw [List.append_nil]
    exact unread
  refine ⟨live.map slotQuery, ?_⟩
  generalize live.map slotQuery = slots at asks sent ⊢
  cases came : call link (.frameValues thread frame.id slots) looked with
  | mk outcome own after =>
      rw [came] at sent
      obtain ⟨_, rfl, _⟩ := Progress.mk.inj sent
      cases outcome with
      | failed error =>
          rw [Act.bind_failed came]
          exact ⟨[], asks, rfl, once, by intro _ impossible; cases impossible⟩
      | unfinished =>
          rw [Act.bind_unfinished came]
          exact ⟨[], asks, rfl, once, by intro _ impossible; cases impossible⟩
      | ok values =>
          rw [Act.bind_ok came]
          refine ⟨_, asks, rfl, ?_, ?_⟩
          · exact List.forall_mem_append.mpr ⟨unread, each_not_readsFrame _ _⟩
          · intro locals ready
            have ran : Act.each (showVariable link) (live.zip values) after
                = ⟨.ok locals, (Act.each (showVariable link) (live.zip values) after).log,
                  (Act.each (showVariable link) (live.zip values) after).state⟩ := by
              rw [← ready]
              rfl
            obtain ⟨own, same, shown⟩ := (each_shown live values [] _).of_ok ran
            rw [List.nil_append, List.nil_append] at same
            subst same
            rw [came]
            exact ⟨values, rfl, shown, shown.length, fun _ _ there => shown.nth there⟩

/-- The slots of the live variables are read with one command, each as its entry says, and the
values of the reply are shown under the entries that they were read for.  Without a live variable
no slot is read.  An entry whose stretch of code ran past the last index would be taken for one
that ends near the first. -/
theorem locals_are_paired_with_their_slots (link : Link τ) (chainLimit : Nat) (thread : UInt64)
    (frame : StackFrame) {table : List Wire.Variable} {present looked : Remote τ}
    {earlier : List Exchange}
    (known : variableTable link frame.location.classId frame.location.methodId present
      = ⟨.ok table, earlier, looked⟩)
    (ends : forall entry, entry ∈ table -> EndsInRange entry) :
    let live := liveAt frame.location.codeIndex table
    let result := (target link chainLimit).respond (.visibleVariables thread frame) present
    (forall exchange, exchange ∈ earlier -> ¬ ReadsFrame exchange.command) ∧
      (live = [] -> result = ⟨.ok [], earlier, looked⟩) ∧
      (live ≠ [] -> exists slots rest,
        ReadsSlots link thread frame live earlier looked slots rest result) := by
  have unread : forall exchange, exchange ∈ earlier -> ¬ ReadsFrame exchange.command := by
    let lookup : Lookup := .variableTable frame.location.classId frame.location.methodId
    have marks : forall exchange, exchange ∈ (lookup.act link present).log ->
        ¬ ReadsFrame exchange.command := lookUp_not_readsFrame lookup present
    rw [show lookup.act link present = _ from known] at marks
    exact marks
  have respond : (target link chainLimit).respond (.visibleVariables thread frame) present = _ :=
    Act.bind_ok known _
  rw [filter_isVisibleAt ends] at respond
  intro live result
  cases there : live with
  | nil =>
      refine ⟨unread, fun _ => respond.trans ?_, fun some => absurd rfl some⟩
      rw [show liveAt _ _ = [] from there]
      exact congrArg (Progress.mk (.ok []) · looked) (List.append_nil earlier)
  | cons first others =>
      refine ⟨unread, (by intro impossible; cases impossible), fun _ => ?_⟩
      obtain ⟨slots, rest, reads⟩ := readSlots thread frame (first :: others) looked unread
      refine ⟨slots, rest, ?_⟩
      rw [show liveAt _ _ = first :: others from there] at respond
      change ReadsSlots link thread frame _ earlier looked slots rest
        ((target link chainLimit).respond (.visibleVariables thread frame) present)
      rw [respond]
      exact reads

/-! ## A slot that is used twice -/

/-- Two variables share a slot one after the other, and a third one is live all the time. -/
def sharedSlot : List Wire.Variable :=
  [⟨0, "early", "J", 5, 1⟩, ⟨0, "all", "Z", 20, 2⟩, ⟨5, "late", "I", 10, 1⟩]

/-- A link on which the slots of a frame hold a truth value and a number, and nothing else is
answered. -/
def twoSlots : Link Unit where
  send command state :=
    if command.set = 16 then
      ⟨.ok ⟨0, 0, [0, 0, 0, 2, 0x5A, 1, 0x49, 0, 0, 0, 7]⟩, some 0, state⟩
    else ⟨.ok ⟨0, 101, []⟩, some 0, state⟩
  receive state := (.ok none, state)

/-- In the middle of the method the slot belongs to the later variable. -/
theorem shared_slot_is_paired :
    let frame : StackFrame := ⟨3, ⟨1, "Main", 2, "main", none, 7⟩⟩
    let present : Remote Unit := ⟨(), { variableTables := [((1, 2), sharedSlot)] }⟩
    let result := (target twoSlots 1).respond (.visibleVariables 4 frame) present
    variableTable twoSlots 1 2 present = ⟨.ok sharedSlot, [], present⟩ ∧
      (forall entry, entry ∈ sharedSlot -> EndsInRange entry) ∧
      liveAt 7 sharedSlot ≠ [] ∧
      (exists slots rest,
        ReadsSlots twoSlots 4 frame (liveAt 7 sharedSlot) [] present slots rest result) ∧
      result.outcome = .ok [⟨"all", "boolean", .bool true⟩, ⟨"late", "int", .int 7⟩] := by
  intro frame present result
  have known : variableTable twoSlots 1 2 present = ⟨.ok sharedSlot, [], present⟩ := rfl
  have ends : forall entry, entry ∈ sharedSlot -> EndsInRange entry := by
    unfold EndsInRange
    decide
  have live : liveAt 7 sharedSlot ≠ [] := by decide
  exact ⟨known, ends, live,
    (locals_are_paired_with_their_slots twoSlots 1 4 frame known ends).2.2 live, rfl⟩

end Remote
end Debuggee
end LineDebugger
