import LineDebugger.Proofs.Debuggee.LineResolution

namespace LineDebugger
namespace Debuggee

open Connection

/-!
# The line that a breakpoint is shown with

The place for a line is found by one question to a line table, and the place is then described by
the other one.  Both questions go to the same table: it is remembered from the first one on, and
nothing that is looked up in between takes its place.  So what holds of the two questions holds of
a breakpoint.  It is shown with the line that it was set on, unless the last entry at its code
index is one of another line.

Nothing is assumed of the machine here, nor of what is remembered before.
-/

/-! ## What is shown of a line -/

/-- Lines are not negative, and so a line that is found is shown as it is. -/
theorem Remote.lineAt?_eq_some_iff {index : UInt64} {table : Wire.LineTable} {line : UInt32} :
    Remote.lineAt? index table = some line ↔
      exists found, table.lineForIndex index = some found ∧ found.toInt = line.toNat := by
  unfold lineAt?
  rw [Option.bind_eq_some_iff]
  refine exists_congr fun found => and_congr_right fun _ => ?_
  by_cases negative : found.toInt < 0
  · rw [if_pos negative]
    refine iff_of_false (by intro impossible; cases impossible) fun same => ?_
    omega
  · rw [if_neg negative, Option.some.injEq]
    have small : 2 * found.toBitVec.toNat < 2 ^ 32 := by
      by_contra large
      exact negative (BitVec.toInt_neg_iff.mpr (Nat.le_of_not_lt large))
    have number : (found.toUInt32.toNat : Int) = found.toInt :=
      (BitVec.toInt_eq_toNat_of_lt small).symm
    rw [← number, Int.natCast_inj, UInt32.toNat_inj]

/-- Only a place whose line is known shows a number. -/
theorem Location.lineText_eq_iff {location : Location} {line : UInt32} :
    location.lineText = toString line.toNat ↔ location.line = some line := by
  have digits (number : Nat) : (toString number).toList = Nat.toDigits 10 number :=
    Nat.toList_repr
  unfold lineText
  rw [← String.toList_inj]
  cases location.line with
  | some shown =>
      rw [digits, digits, Option.some.injEq, ← UInt32.toNat_inj]
      refine ⟨fun same => ?_, fun same => congrArg (Nat.toDigits 10) same⟩
      have read := congrArg (Nat.ofDigitChars 10 · 0) same
      rwa [Nat.ofDigitChars_ten_toDigits, Nat.ofDigitChars_ten_toDigits] at read
  | none =>
      refine iff_of_false (fun same => ?_) (by intro impossible; cases impossible)
      rw [digits] at same
      have mark : ('?' : Char) ∈ Nat.toDigits 10 line.toNat := same ▸ List.mem_singleton_self _
      exact absurd (Nat.isDigit_of_mem_toDigits (by decide) (by decide) mark) (by decide)

/-! ## The table that both questions go to -/

/-- The location is the place of the line in a method whose table is remembered, and it is shown
with the line that the table gives to its code index. -/
structure ReadOff (classId : UInt64) (line : Int32) (caches : Caches) (location : Location)
    (table : Wire.LineTable) : Prop where
  ofClass : location.classId = classId
  recalled : (Lookup.lineTable classId location.methodId).find caches = some table
  first : table.firstIndexOfLine line = some location.codeIndex
  shown : location.line = Remote.lineAt? location.codeIndex table

/-- A location is shown with its line if and only if the last entry at its code index is one of
that line. -/
theorem ReadOff.line_eq_iff {classId : UInt64} {line : UInt32} {location : Location}
    {caches : Caches} {table : Wire.LineTable} (fits : line.toNat < 2 ^ 31)
    (readOff : ReadOff classId line.toInt32 caches location table) :
    location.line = some line ↔
      exists entry, table.LastAt location.codeIndex entry ∧ entry.line = line.toInt32 := by
  have opens := Wire.LineTable.firstIndexOfLine_iff_opens.mp readOff.first
  rw [readOff.shown, Remote.lineAt?_eq_some_iff, ← Wire.LineTable.lineForIndex_of_opens opens]
  simp only [← Wire.LineTable.line_eq_iff fits, exists_eq_right]

namespace Remote

variable {τ α : Type} {link : Link τ} {asks : Wire.Call -> Prop} {state : Remote τ}

/-- What has been looked up is remembered. -/
theorem tolerate_lookUp_recalls (link : Link τ) (lookup : Lookup) (past : List Exchange)
    (state : Remote τ) :
    (tolerate (lookup.act link)).Reaches (.anyway fun _ => True)
      (fun found _ after => forall known, found = some known ->
        lookup.find after.caches = some known) past state := by
  unfold Act.Reaches
  rw [tolerate_eq]
  cases recalled : lookup.find state.caches with
  | some held =>
      rw [Lookup.act_of_recalled recalled]
      rintro known ⟨⟩
      exact recalled
  | none =>
      rw [Lookup.act_of_forgotten recalled]
      cases lookup.call.verdict (link.send lookup.call.command state.link).outcome with
      | ok answer =>
          rintro known ⟨⟩
          exact Lookup.find_store _ _ _
      | failed fault =>
          simp only [Outcome.map, Outcome.mapError, tolerated]
          cases (TargetError.ofFault fault).isDisconnect with
          | true => exact trivial
          | false =>
              rintro known ⟨⟩
      | unfinished => exact trivial

/-- A composed computation does not change what is remembered, as long as it notes no names. -/
theorem Composed.reaches_recalls {act : RemoteAct τ α}
    (composed : Composed link asks (fun _ _ => False) act) {lookup : Lookup}
    {known : lookup.Answer} (recalled : lookup.find state.caches = some known)
    (past : List Exchange) :
    act.Reaches (.anyway fun _ => True) (fun _ _ after => lookup.find after.caches = some known)
      past state :=
  (Act.reaches_somehow.leaving (fun after => lookup.find after.caches = some known)
    (composed.recalls (fun _ _ noted => noted.elim) recalled)).widen fun _ _ _ owed => owed.2

/-- A place in a method whose table is remembered gets its line from this table. -/
theorem describe_shows {place : Wire.Location} {table : Wire.LineTable} (past : List Exchange)
    (recalled : (Lookup.lineTable place.classId place.methodId).find state.caches = some table) :
    (describe link place).Reaches (.anyway fun _ => True)
      (fun location _ after =>
        (Lookup.lineTable place.classId place.methodId).find after.caches = some table ∧
          Located place location ∧ location.line = lineAt? place.index table) past state := by
  have named : Composed link (fun _ => False) (fun _ _ => False)
      (tolerate (typeName link place.classId)) := .tolerate (.typeName _)
  have listed : Composed link (fun _ => False) (fun _ _ => False)
      (tolerate (methods link place.classId)) := .tolerate (.lookUp (.methods _))
  refine (named.reaches_recalls recalled past).bind fun _ log between recalled => ?_
  refine (listed.reaches_recalls recalled log).bind fun _ log between recalled => ?_
  have read : lineTable link place.classId place.methodId between = ⟨.ok table, [], between⟩ :=
    Lookup.act_of_recalled recalled link
  have tried : tolerate (lineTable link place.classId place.methodId) between
      = ⟨.ok (some table), [], between⟩ := by
    rw [tolerate_eq, read]
    rfl
  unfold Act.Reaches
  rw [Act.bind_ok tried]
  exact ⟨recalled, ⟨rfl, rfl, rfl⟩, rfl⟩

/-- What has been read off a table can still be read off it after a composed computation. -/
theorem Composed.readOff {act : RemoteAct τ α}
    (composed : Composed link asks (fun _ _ => False) act) {classId : UInt64} {line : Int32}
    {location : Location} {table : Wire.LineTable}
    (now : ReadOff classId line state.caches location table) :
    ReadOff classId line (act state).state.caches location table :=
  { now with recalled := composed.recalls (fun _ _ noted => noted.elim) now.recalled }

theorem locationInMethod_readOff (link : Link τ) (classId : UInt64) (line : Int32)
    (method : Wire.MethodInfo) (past : List Exchange) (state : Remote τ) :
    (locationInMethod link classId line method).Reaches (.anyway fun _ => True)
      (fun found _ after => forall location, found = some location ->
        exists table, ReadOff classId line after.caches location table) past state := by
  refine (tolerate_lookUp_recalls link (.lineTable classId method.id) past state).bind
    fun found log between held => ?_
  cases there : found.bind (·.firstIndexOfLine line) with
  | none => exact Act.reaches_pure.mpr fun location impossible => by cases impossible
  | some index =>
      obtain ⟨table, rfl, first⟩ := Option.bind_eq_some_iff.mp there
      refine (describe_shows log (held table rfl)).bind fun location log after described => ?_
      obtain ⟨recalled, located, shown⟩ := described
      refine Act.reaches_pure.mpr ?_
      rintro _ ⟨⟩
      refine ⟨table, located.classId, ?_, ?_, ?_⟩
      · rw [located.methodId]
        exact recalled
      · rw [located.codeIndex]
        exact first
      · rw [located.codeIndex]
        exact shown

/-- The tables of the methods that come first are not forgotten over the others. -/
theorem each_readOff (link : Link τ) (classId : UInt64) (line : Int32)
    (methods : List Wire.MethodInfo) (past : List Exchange) (state : Remote τ) :
    (Act.each (locationInMethod link classId line) methods).Reaches (.anyway fun _ => True)
      (fun found _ after => forall location, some location ∈ found ->
        exists table, ReadOff classId line after.caches location table) past state := by
  induction methods generalizing past state with
  | nil => exact Act.reaches_pure.mpr fun location => List.not_mem_nil.elim
  | cons method methods inductionHypothesis =>
      refine (locationInMethod_readOff link classId line method past state).bind
        fun result log between first => ?_
      have composed : Composed link (fun _ => False) (fun _ _ => False)
          (Act.each (locationInMethod link classId line) methods) :=
        Composed.each fun method _ => Composed.locationInMethod classId line method
      refine ((inductionHypothesis log between).leaving
        (fun after => forall location, result = some location ->
          exists table, ReadOff classId line after.caches location table)
        fun location same => (first location same).imp fun _ => composed.readOff).bind
        fun others log after ⟨later, first⟩ => ?_
      refine Act.reaches_pure.mpr fun location member => ?_
      rcases List.mem_cons.mp member with same | member
      · exact first location same.symm
      · exact later location member

/-- Whatever place is found for a line, it is found in a table, and its line is shown as this table
has it. -/
theorem locationsOfLine_readOff (link : Link τ) (classId : UInt64) (line : UInt32)
    (past : List Exchange) (state : Remote τ) :
    (locationsOfLine link classId line).Reaches (.anyway fun _ => True)
      (fun locations _ after => line.toNat < 2 ^ 31 ∧ forall location, location ∈ locations ->
        exists table, ReadOff classId line.toInt32 after.caches location table) past state := by
  have bound : Int32.maxValue.toInt = 2 ^ 31 - 1 := rfl
  unfold locationsOfLine
  by_cases beyond : Int32.maxValue.toInt < line.toNat
  · rw [if_pos beyond]
    exact Act.reaches_fail.mpr trivial
  · rw [if_neg beyond]
    refine Act.reaches_somehow.bind fun methods log between _ => ?_
    refine (each_readOff link classId line.toInt32 methods log between).bind
      fun found log after readOff => ?_
    have listed (location : Location) (member : location ∈ found.filterMap id) :
        exists table, ReadOff classId line.toInt32 after.caches location table := by
      obtain ⟨result, present, same⟩ := List.mem_filterMap.mp member
      exact readOff location (same ▸ present)
    cases there : found.filterMap id with
    | nil => exact Act.reaches_fail.mpr trivial
    | cons first others =>
        refine Act.reaches_pure.mpr ⟨by omega, fun location member => listed location ?_⟩
        rw [there]
        exact List.mem_mergeSort.mp member

end Remote

/-! ## There and back -/

/-- Of every table in any order, with any repetitions: a code index has a line unless all entries
are above it, and it is the line of the last entry among those with the greatest index that is not
above; a line begins at the lowest index of its entries; and from this index the line is found again
if and only if the last entry at the index is one of the line.  So a breakpoint that has been set,
in whatever situation, is shown with the line that was asked for if and only if the last entry at
its code index is one of that line. -/
theorem lines_and_indexes_invert :
    (forall (table : Wire.LineTable) (index : UInt64) (line : Int32),
      (table.lineForIndex index = none ↔
          forall entry, entry ∈ table.entries -> index < entry.codeIndex) ∧
        (table.lineForIndex index = some line ↔
          exists entry, table.InForce index entry ∧ entry.line = line) ∧
        (table.firstIndexOfLine line = none ↔
          forall entry, entry ∈ table.entries -> entry.line ≠ line) ∧
        (table.firstIndexOfLine line = some index ↔ table.Opens line index) ∧
        (table.firstIndexOfLine line = some index ->
          (table.lineForIndex index = some line ↔
              exists entry, table.LastAt index entry ∧ entry.line = line) ∧
            ((table.entries.map Wire.LineEntry.codeIndex).Nodup ->
              table.lineForIndex index = some line))) ∧
      forall {τ : Type} (link : Link τ) (chainLimit : Nat) (classId : UInt64) (line : UInt32)
          (situation : Session.Situation (Remote τ)) (breakpoint : Session.Breakpoint),
        (Session.setBreakpoint (Remote.target link chainLimit) classId line situation).outcome
            = .ok breakpoint ->
        exists table,
          ReadOff classId line.toInt32
              (situation.answered (Remote.target link chainLimit)
                (.locationsOfLine classId line)).target.caches breakpoint.location table ∧
            (breakpoint.location.lineText = toString line.toNat ↔
              exists entry, table.LastAt breakpoint.location.codeIndex entry ∧
                entry.line = line.toInt32) := by
  constructor
  · intro table index line
    refine ⟨Wire.LineTable.lineForIndex_eq_none_iff, Wire.LineTable.lineForIndex_eq_some_iff,
      Wire.LineTable.firstIndexOfLine_eq_none_iff, Wire.LineTable.firstIndexOfLine_iff_opens, ?_⟩
    intro first
    have opens := Wire.LineTable.firstIndexOfLine_iff_opens.mp first
    refine ⟨Wire.LineTable.lineForIndex_of_opens opens, fun distinct => ?_⟩
    obtain ⟨entry, member, same, rfl⟩ := opens.entry
    exact (Wire.LineTable.lineForIndex_of_opens opens).mpr
      ⟨entry, Wire.LineTable.lastAt_of_nodup distinct member, same⟩
  · intro τ link chainLimit classId line situation breakpoint set
    have comesOut := Session.setBreakpoint_comesOut (Remote.target link chainLimit) situation
      classId line
    generalize Session.setBreakpoint (Remote.target link chainLimit) classId line situation = made
      at set comesOut
    cases comesOut with
    | duplicate listed => cases set
    | inVain failed records => exact absurd set (failed breakpoint)
    | set missing same created table =>
        cases set
        obtain ⟨others, located⟩ := created.located
        rw [same] at located
        have contract := Remote.locationsOfLine_readOff link classId line [] situation.target
        unfold Act.Reaches at contract
        rw [show (Remote.locationsOfLine link classId line situation.target).outcome = _ from
          located] at contract
        obtain ⟨fits, readOff⟩ := contract
        obtain ⟨table, readOff⟩ := readOff breakpoint.location List.mem_cons_self
        refine ⟨table, readOff, ?_⟩
        rw [Location.lineText_eq_iff, readOff.line_eq_iff fits]

/-! ## Two lines at one code index -/

/-- The line 3 begins at 5, and there the line 4 begins as well, further down in the table. -/
def twofold : Wire.LineTable := ⟨0, 20, [⟨5, 3⟩, ⟨0, 2⟩, ⟨5, 4⟩]⟩

/-- A class with one method, which has this table. -/
def twofolded (command : Wire.Command) : Wire.Reply :=
  if command = (Wire.Call.methods 7).command then
    ⟨0, 0, Wire.listBytes Wire.MethodInfo.bytes [⟨1, "run", "()V", 0⟩]⟩
  else if command = (Wire.Call.lineTable 7 1).command then ⟨0, 0, twofold.bytes⟩
  else if command = (Wire.Call.setBreakpoint ⟨Wire.Location.classTag, 7, 1, 5⟩ .all).command then
    ⟨0, 0, Wire.signedBytes32 9⟩
  else ⟨0, 101, []⟩

/-- A breakpoint that is set on line 3 is shown with line 4.  Where no index repeats, the line is
found again. -/
theorem line_of_repeated_index :
    let target := Remote.target (Client.link (replying twofolded)) 1
    let situation := Session.Situation.initial
      (⟨Client.opened () { bytes := [] }, {}⟩ : Remote (Client Unit)) [] "Main"
    let breakpoint : Session.Breakpoint := ⟨3, ⟨7, "7", 1, "run", some 4, 5⟩, 9, true⟩
    let single : Wire.LineTable := ⟨0, 20, [⟨9, 3⟩, ⟨6, 3⟩, ⟨0, 2⟩]⟩
    (Session.setBreakpoint target 7 3 situation).outcome = .ok breakpoint ∧
      (exists table,
        ReadOff 7 3 (situation.answered target (.locationsOfLine 7 3)).target.caches
            breakpoint.location table ∧
          ¬ exists entry, table.LastAt 5 entry ∧ entry.line = 3) ∧
      single.firstIndexOfLine 3 = some 6 ∧
      (single.entries.map Wire.LineEntry.codeIndex).Nodup ∧ single.lineForIndex 6 = some 3 := by
  intro target situation breakpoint single
  have set : (Session.setBreakpoint target 7 3 situation).outcome = .ok breakpoint := by
    decide +kernel
  have first : single.firstIndexOfLine 3 = some 6 := by decide
  have distinct : (single.entries.map Wire.LineEntry.codeIndex).Nodup := by decide
  obtain ⟨table, readOff, shown⟩ := lines_and_indexes_invert.2 _ 1 7 3 situation breakpoint set
  refine ⟨set, ⟨table, readOff, fun there => ?_⟩, first, distinct, ?_⟩
  · exact absurd (shown.mpr there) (by decide)
  · exact ((lines_and_indexes_invert.1 single 6 3).2.2.2.2 first).2 distinct

end Debuggee
end LineDebugger
