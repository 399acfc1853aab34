import LineDebugger.Proofs.Debuggee.Outlook
import LineDebugger.Proofs.Debuggee.Reporting
import LineDebugger.Proofs.Session.Editing
import LineDebugger.Proofs.Wire.LineTable

namespace LineDebugger

open Connection

/-!
# Where a line begins

The line tables of a class come in any order and may list a line many times, and a method may
have no table that can be read.  Still there is one place for a line in every method that has it:
the lowest code index of its entries.  `Places` goes through the methods of a class and says which
place belongs to which method, and which methods are passed over.  What is answered is this list
sorted by code index, with methods of the same index left in their order.

A breakpoint is put at the first of these places.
-/

/-! ## One table -/

namespace Wire.LineTable

/-- The index is the lowest one of the entries of the line. -/
structure Begins (table : LineTable) (line : UInt32) (index : UInt64) : Prop where
  entry : exists entry, entry ∈ table.entries ∧ entry.line.toInt = line.toNat ∧
    entry.codeIndex = index
  least : forall entry, entry ∈ table.entries -> entry.line.toInt = line.toNat ->
    index ≤ entry.codeIndex

variable {table : LineTable} {line : UInt32} {index other : UInt64}

theorem Begins.unique (begins : table.Begins line index) (also : table.Begins line other) :
    index = other := by
  obtain ⟨entry, listed, same, rfl⟩ := begins.entry
  obtain ⟨entryToo, listedToo, sameToo, rfl⟩ := also.entry
  exact UInt64.le_antisymm (begins.least entryToo listedToo sameToo)
    (also.least entry listed same)

/-- A line that fits is found by its number. -/
theorem line_eq_iff (fits : line.toNat < 2 ^ 31) (found : Int32) :
    found = line.toInt32 ↔ found.toInt = line.toNat := by
  have number : line.toInt32.toInt = line.toNat := by
    refine BitVec.toInt_eq_toNat_of_lt ?_
    change 2 * line.toNat < 2 ^ 32
    omega
  rw [← Int32.toInt_inj, number]

theorem firstIndexOfLine_eq_some_iff (fits : line.toNat < 2 ^ 31) :
    table.firstIndexOfLine line.toInt32 = some index ↔ table.Begins line index := by
  rw [firstIndexOfLine_iff_opens]
  constructor
  · rintro ⟨⟨entry, listed, same, begins⟩, least⟩
    exact ⟨⟨entry, listed, (line_eq_iff fits _).mp same, begins⟩,
      fun other member same => least other member ((line_eq_iff fits _).mpr same)⟩
  · rintro ⟨⟨entry, listed, same, begins⟩, least⟩
    exact ⟨⟨entry, listed, (line_eq_iff fits _).mpr same, begins⟩,
      fun other member same => least other member ((line_eq_iff fits _).mp same)⟩

end Wire.LineTable

namespace Debuggee

/-! ## One class -/

section Class

variable (reply : Wire.Command -> Wire.Reply) (classId : UInt64) (line : UInt32)

/-- The table of the method can be read, and the line begins in it at this index. -/
def BeginsAt (method : Wire.MethodInfo) (index : UInt64) : Prop :=
  exists table, settledBy reply (.lineTable classId method.id) = .ok table ∧
    table.Begins line index

/-- The location is the one where the line begins in the method. -/
structure PlacedBy (method : Wire.MethodInfo) (location : Location) : Prop where
  begins : BeginsAt reply classId line method location.codeIndex
  classId : location.classId = classId
  methodId : location.methodId = method.id

/-- There is one location for every method that has the line, and the others are passed over. -/
inductive Places : List Wire.MethodInfo -> List Location -> Prop where
  | nil : Places [] []
  | found {method : Wire.MethodInfo} {methods : List Wire.MethodInfo} {location : Location}
      {locations : List Location} (placed : PlacedBy reply classId line method location)
      (others : Places methods locations) : Places (method :: methods) (location :: locations)
  | passed {method : Wire.MethodInfo} {methods : List Wire.MethodInfo} {locations : List Location}
      (none : forall index, ¬ BeginsAt reply classId line method index)
      (others : Places methods locations) : Places (method :: methods) locations

end Class

section Places

variable {reply : Wire.Command -> Wire.Reply} {classId : UInt64} {line : UInt32}
  {methods : List Wire.MethodInfo} {locations : List Location}

theorem BeginsAt.unique {method : Wire.MethodInfo} {index other : UInt64}
    (begins : BeginsAt reply classId line method index)
    (also : BeginsAt reply classId line method other) : index = other := by
  obtain ⟨table, read, begins⟩ := begins
  obtain ⟨same, readToo, also⟩ := also
  cases read.symm.trans readToo
  exact begins.unique also

theorem Places.of_mem (places : Places reply classId line methods locations) {location : Location}
    (member : location ∈ locations) :
    exists method, method ∈ methods ∧ PlacedBy reply classId line method location := by
  induction places with
  | nil => cases member
  | @found method methods first locations placed others inductionHypothesis =>
      rcases List.mem_cons.mp member with rfl | member
      · exact ⟨method, List.mem_cons_self, placed⟩
      · obtain ⟨other, present, placedThere⟩ := inductionHypothesis member
        exact ⟨other, List.mem_cons_of_mem _ present, placedThere⟩
  | passed none others inductionHypothesis =>
      obtain ⟨other, present, placed⟩ := inductionHypothesis member
      exact ⟨other, List.mem_cons_of_mem _ present, placed⟩

/-- No method that has the line is passed over. -/
theorem Places.of_begins (places : Places reply classId line methods locations)
    {method : Wire.MethodInfo} (member : method ∈ methods) {index : UInt64}
    (begins : BeginsAt reply classId line method index) :
    exists location, location ∈ locations ∧ PlacedBy reply classId line method location := by
  induction places with
  | nil => cases member
  | @found first methods location locations placed others inductionHypothesis =>
      rcases List.mem_cons.mp member with rfl | member
      · exact ⟨location, List.mem_cons_self, placed⟩
      · obtain ⟨other, present, placedThere⟩ := inductionHypothesis member
        exact ⟨other, List.mem_cons_of_mem _ present, placedThere⟩
  | passed none others inductionHypothesis =>
      rcases List.mem_cons.mp member with rfl | member
      · exact absurd begins (none index)
      · exact inductionHypothesis member

end Places

/-! ## The order of the answer -/

/-- The locations are those that were found, by ascending code index; those that share an index
are left in the order in which they were found. -/
structure SortedFrom (found locations : List Location) : Prop where
  same : locations.Perm found
  ascending : locations.Pairwise fun one later => one.codeIndex ≤ later.codeIndex
  stable : forall index, (locations.filter fun location => location.codeIndex == index)
    = found.filter fun location => location.codeIndex == index

theorem mergeSort_sortedFrom (found : List Location) :
    SortedFrom found (found.mergeSort fun one other => one.codeIndex ≤ other.codeIndex) := by
  have transitive (one two three : Location) (first : decide (one.codeIndex ≤ two.codeIndex) = true)
      (second : decide (two.codeIndex ≤ three.codeIndex) = true) :
      decide (one.codeIndex ≤ three.codeIndex) = true :=
    decide_eq_true (UInt64.le_trans (of_decide_eq_true first) (of_decide_eq_true second))
  have total (one other : Location) : (decide (one.codeIndex ≤ other.codeIndex)
      || decide (other.codeIndex ≤ one.codeIndex)) = true := by
    rw [← Bool.decide_or]
    exact decide_eq_true (UInt64.le_total _ _)
  have same := List.mergeSort_perm found fun one other => one.codeIndex ≤ other.codeIndex
  refine ⟨same, ?_, fun index => ?_⟩
  · exact (List.pairwise_mergeSort transitive total found).imp of_decide_eq_true
  · -- Entries of one index are in order already, so that they come through as they are.
    have level : (found.filter fun location => location.codeIndex == index).Pairwise
        fun one other => decide (one.codeIndex ≤ other.codeIndex) = true := by
      refine List.pairwise_of_forall_mem_list fun one member other memberToo => ?_
      rw [beq_iff_eq.mp (List.mem_filter.mp member).2,
        beq_iff_eq.mp (List.mem_filter.mp memberToo).2]
      exact decide_eq_true (UInt64.le_refl index)
    have within := (List.sublist_mergeSort transitive total level List.filter_sublist).filter
      fun location : Location => location.codeIndex == index
    simp only [List.filter_filter, Bool.and_self] at within
    exact (within.eq_of_length (same.filter _).length_eq.symm).symm

/-! ## How the places are found -/

namespace Remote

variable {τ α : Type} {link : Link τ} {reply : Wire.Command -> Wire.Reply} {kept : τ -> Prop}

/-- Nothing goes wrong but that the debuggee is lost. -/
def lossOnly : Exits (Remote τ) Exchange TargetError where
  failed error _ _ := error.isDisconnect = true
  unfinished _ := False

section Finding

variable (fixed : Fixed link reply kept)
include fixed

/-- What can be looked up is found, and what cannot is gone on without. -/
theorem tolerate_lookUp_faces (lookup : Lookup) (past : List Exchange) {outlook : Outlook}
    {state : Remote τ} (faces : Faces reply kept outlook state) :
    (tolerate (lookup.act link)).Reaches lossOnly
      (fun found _ after => Faces reply kept outlook after ∧ found = (outlook lookup).toOption)
      past state := by
  obtain ⟨after, came⟩ := faces.lookUp fixed lookup
  unfold Act.Reaches
  rw [tolerate_eq, came]
  cases outlook lookup with
  | ok known => exact ⟨after, rfl⟩
  | error fault =>
      cases gone : (TargetError.ofFault fault).isDisconnect with
      | true =>
          simp only [Outcome.ofExcept, Outcome.mapError, tolerated, gone, if_true]
          exact gone
      | false =>
          simp only [Outcome.ofExcept, Outcome.mapError, tolerated, gone, Bool.false_eq_true,
            if_false]
          exact ⟨after, rfl⟩

/-- Where what is remembered is true, what is found is what the machine replies. -/
theorem tolerate_lookUp_fixed (lookup : Lookup) (past : List Exchange) {state : Remote τ}
    (informed : Informed reply kept state) :
    (tolerate (lookup.act link)).Reaches lossOnly
      (fun found _ after => Informed reply kept after ∧ (lookup.forName = false ->
        found = ((settledBy reply lookup.call).map lookup.settle).toOption)) past state := by
  have composed : Composed link (fun _ => False) (fun _ _ => False)
      (tolerate (lookup.act link)) := .tolerate (.lookUp lookup)
  refine ((tolerate_lookUp_faces fixed lookup past (.of_kept informed.link)).leaving
    (Informed reply kept) (informed.of_composed fixed composed)).widen
    fun found _ after ⟨⟨_, same⟩, informedThen⟩ => ⟨informedThen, fun other => ?_⟩
  rw [same, informed.caches.outlook_eq other]

/-- A position is described where it is, with its line if there is one to be found out. -/
theorem describe_faces (place : Wire.Location) (past : List Exchange)
    {outlook : Outlook} {state : Remote τ} (faces : Faces reply kept outlook state) :
    (describe link place).Reaches lossOnly
      (fun location _ after => Faces reply kept outlook after ∧ Located place location ∧
        location.line
          = (outlook (.lineTable place.classId place.methodId)).toOption.bind (lineAt? place.index))
      past state := by
  refine (tolerate_lookUp_faces fixed (.typeName place.classId) past faces).bind
    fun _ log between ⟨faces, _⟩ => ?_
  refine (tolerate_lookUp_faces fixed (.methods place.classId) log faces).bind
    fun _ log between ⟨faces, _⟩ => ?_
  refine (tolerate_lookUp_faces fixed (.lineTable place.classId place.methodId) log faces).bind
    fun table log after ⟨faces, same⟩ => ?_
  exact Act.reaches_pure.mpr ⟨faces, ⟨rfl, rfl, rfl⟩, congrArg (·.bind (lineAt? place.index)) same⟩

theorem describe_fixed (place : Wire.Location) (past : List Exchange) {state : Remote τ}
    (informed : Informed reply kept state) :
    (describe link place).Reaches lossOnly
      (fun location _ after => Informed reply kept after ∧ Located place location)
      past state := by
  have composed : Composed link (fun _ => False) (fun _ _ => False) (describe link place) :=
    Composed.describe place
  exact ((describe_faces fixed place past (.of_kept informed.link)).leaving
    (Informed reply kept) (informed.of_composed fixed composed)).widen
    fun location _ after ⟨⟨_, located, _⟩, informedThen⟩ => ⟨informedThen, located⟩

/-- What is found for a method: its place if it has the line, and else nothing. -/
def Finds (reply : Wire.Command -> Wire.Reply) (classId : UInt64) (line : UInt32)
    (method : Wire.MethodInfo) : Option Location -> Prop
  | some location => PlacedBy reply classId line method location
  | none => forall index, ¬ BeginsAt reply classId line method index

theorem locationInMethod_finds (classId : UInt64) {line : UInt32} (fits : line.toNat < 2 ^ 31)
    (method : Wire.MethodInfo) (past : List Exchange) {state : Remote τ}
    (informed : Informed reply kept state) :
    (locationInMethod link classId line.toInt32 method).Reaches lossOnly
      (fun found _ after => Informed reply kept after ∧ Finds reply classId line method found)
      past state := by
  refine (tolerate_lookUp_fixed fixed (.lineTable classId method.id) past informed).bind
    fun found log between ⟨informed, known⟩ => ?_
  have looked := known rfl
  cases read : settledBy reply (.lineTable classId method.id) with
  | error fault =>
      rw [read] at looked
      subst looked
      refine Act.reaches_pure.mpr ⟨informed, fun index begins => ?_⟩
      obtain ⟨table, readable, _⟩ := begins
      cases read.symm.trans readable
  | ok table =>
      have begins {index : UInt64} : BeginsAt reply classId line method index ↔
          table.firstIndexOfLine line.toInt32 = some index := by
        rw [Wire.LineTable.firstIndexOfLine_eq_some_iff fits, BeginsAt, read]
        simp only [Except.ok.injEq, exists_eq_left']
      rw [read] at looked
      obtain rfl : found = some table := looked
      rw [Option.bind_some]
      cases first : table.firstIndexOfLine line.toInt32 with
      | none =>
          refine Act.reaches_pure.mpr ⟨informed, fun index beginsThere => ?_⟩
          cases first.symm.trans (begins.mp beginsThere)
      | some index =>
          refine (describe_fixed fixed _ log informed).bind fun location log after described => ?_
          obtain ⟨informed, located⟩ := described
          refine Act.reaches_pure.mpr ⟨informed, ?_, located.classId, located.methodId⟩
          rw [located.codeIndex]
          exact begins.mpr first

omit fixed in
/-- The places that were found are those of the methods that have the line. -/
theorem places_of_finds {classId : UInt64} {line : UInt32} {methods : List Wire.MethodInfo}
    {found : List (Option Location)}
    (finds : List.Forall₂ (Finds reply classId line) methods found) :
    Places reply classId line methods (found.filterMap id) := by
  induction finds with
  | nil => exact .nil
  | @cons method outcome methods found first others inductionHypothesis =>
      cases outcome with
      | none => exact .passed first inductionHypothesis
      | some location => exact .found first inductionHypothesis

/-- Nothing goes wrong but that the debuggee is lost or that no method has the line. -/
def lossOrNowhere (reply : Wire.Command -> Wire.Reply) (classId : UInt64) (line : UInt32)
    (methodList : List Wire.MethodInfo) : Exits (Remote τ) Exchange TargetError where
  failed error _ _ := error.isDisconnect = true ∨
    (Places reply classId line methodList [] ∧ exists reason, error = .noSuchElement reason)
  unfinished _ := False

/-- The machine says which methods the class has, and they are gone through in order. -/
theorem locationsOfLine_finds {classId : UInt64} {line : UInt32} (fits : line.toNat < 2 ^ 31)
    {methodList : List Wire.MethodInfo}
    (readable : settledBy reply (.methods classId) = .ok methodList) (past : List Exchange)
    {state : Remote τ} (informed : Informed reply kept state) :
    (locationsOfLine link classId line).Reaches (lossOrNowhere reply classId line methodList)
      (fun locations _ _ => exists found, found ≠ [] ∧ Places reply classId line methodList found ∧
        SortedFrom found locations) past state := by
  have small : ¬ Int32.maxValue.toInt < line.toNat := by
    have bound : Int32.maxValue.toInt = 2 ^ 31 - 1 := rfl
    omega
  have listed : (methods link classId).Reaches (lossOrNowhere reply classId line methodList)
      (fun found _ after => found = methodList ∧ Informed reply kept after) past state := by
    obtain ⟨after, _, settled⟩ := informed.lookUp fixed (.methods classId)
    have came := settled rfl
    rw [show settledBy reply _ = _ from readable] at came
    unfold Act.Reaches
    rw [show (methods link classId state).outcome = .ok methodList from came]
    exact ⟨rfl, after⟩
  unfold locationsOfLine
  rw [if_neg small]
  refine listed.bind fun methods log between ⟨same, informed⟩ => ?_
  subst same
  have each := each_keeps
    (fun method past _ informed => locationInMethod_finds fixed classId fits method past informed)
    methods log informed
  refine Act.Reaches.bind (each.imp (fun _ _ _ gone => Or.inl gone) (fun _ waits => waits)
    fun _ _ _ finds => finds) fun found log after ⟨_, finds⟩ => ?_
  have places := places_of_finds finds
  cases there : found.filterMap id with
  | nil =>
      rw [there] at places
      exact Act.reaches_fail.mpr (Or.inr ⟨places, _, rfl⟩)
  | cons first others =>
      rw [there] at places
      refine Act.reaches_pure.mpr ⟨_, List.cons_ne_nil first others, places, ?_⟩
      exact mergeSort_sortedFrom (first :: others)

/-- As long as the debuggee is not lost, either no method has the line, or the places are found. -/
theorem locationsOfLine_outcome {classId : UInt64} {line : UInt32} (fits : line.toNat < 2 ^ 31)
    {methodList : List Wire.MethodInfo}
    (readable : settledBy reply (.methods classId) = .ok methodList) {state : Remote τ}
    (informed : Informed reply kept state)
    (unharmed : Unharmed (locationsOfLine link classId line state).log) :
    (Places reply classId line methodList [] ∧ exists reason,
        (locationsOfLine link classId line state).outcome = .failed (.noSuchElement reason))
      ∨ exists locations found, found ≠ [] ∧
        (locationsOfLine link classId line state).outcome = .ok locations ∧
        Places reply classId line methodList found ∧ SortedFrom found locations := by
  have owed := locationsOfLine_finds fixed fits readable [] informed
  unfold Act.Reaches at owed
  cases came : (locationsOfLine link classId line state).outcome with
  | ok locations =>
      rw [came] at owed
      obtain ⟨found, some, places, sorted⟩ := owed
      exact Or.inr ⟨locations, found, some, rfl, places, sorted⟩
  | unfinished =>
      rw [came] at owed
      exact owed.elim
  | failed error =>
      rw [came] at owed
      rcases owed with gone | ⟨places, reason, rfl⟩
      · have composed : Composed link (fun _ => True) (fun _ _ => True)
            (locationsOfLine link classId line) := Composed.locationsOfLine classId line
        cases gone.symm.trans ((Candid.of_composed composed).spared unharmed came)
      · exact Or.inl ⟨places, reason, rfl⟩

end Finding

/-- The line is looked for in a class with these methods. -/
structure ResolvesLine (link : Link τ) (chainLimit : Nat) (reply : Wire.Command -> Wire.Reply)
    (classId : UInt64) (line : UInt32) (before : Remote τ) (methodList : List Wire.MethodInfo) :
    Prop where
  /-- No method has the line. -/
  nowhere : (forall method, method ∈ methodList -> forall index,
      ¬ BeginsAt reply classId line method index) ->
    exists reason, ((target link chainLimit).respond (.locationsOfLine classId line) before).outcome
      = .failed (.noSuchElement reason)
  /-- Some method has it, and every one that does has its place in the answer. -/
  somewhere : (exists method index, method ∈ methodList ∧
      BeginsAt reply classId line method index) ->
    exists locations found,
      ((target link chainLimit).respond (.locationsOfLine classId line) before).outcome
        = .ok locations ∧
      Places reply classId line methodList found ∧ SortedFrom found locations
  /-- A new breakpoint for the line is asked for at the lowest of these places. -/
  lowest : forall locations,
    ((target link chainLimit).respond (.locationsOfLine classId line) before).outcome
      = .ok locations ->
    exists first others method, locations = first :: others ∧ method ∈ methodList ∧
      PlacedBy reply classId line method first ∧
      (forall other index, other ∈ methodList -> BeginsAt reply classId line other index ->
        first.codeIndex ≤ index) ∧
      forall situation : Session.Situation (Remote τ), situation.target = before ->
        situation.records.breakpoints.get? line = none ->
        exists exchanges outcome exchange,
          (Session.setBreakpoint (target link chainLimit) classId line situation).log.map
              Session.Moment.mark
            = [.asked (.locationsOfLine classId line) (.ok locations) exchanges,
              .asked (.enableBreakpoint first) outcome [exchange]] ∧
          exchange.command = Wire.Call.command (.request ⟨Wire.EventKind.breakpoint, .all,
            [.locationOnly ⟨Wire.Location.classTag, classId, method.id, first.codeIndex⟩]⟩)

/-- The first of the places is the lowest one, and a breakpoint is asked for there. -/
theorem first_is_lowest (link : Link τ) (chainLimit : Nat) {classId : UInt64} {line : UInt32}
    {before : Remote τ} {methodList : List Wire.MethodInfo} {locations found : List Location}
    (came : ((target link chainLimit).respond (.locationsOfLine classId line) before).outcome
      = .ok locations) (some : found ≠ [])
    (places : Places reply classId line methodList found) (sorted : SortedFrom found locations) :
    exists first others method, locations = first :: others ∧ method ∈ methodList ∧
      PlacedBy reply classId line method first ∧
      (forall other index, other ∈ methodList -> BeginsAt reply classId line other index ->
        first.codeIndex ≤ index) ∧
      forall situation : Session.Situation (Remote τ), situation.target = before ->
        situation.records.breakpoints.get? line = none ->
        exists exchanges outcome exchange,
          (Session.setBreakpoint (target link chainLimit) classId line situation).log.map
              Session.Moment.mark
            = [.asked (.locationsOfLine classId line) (.ok locations) exchanges,
              .asked (.enableBreakpoint first) outcome [exchange]] ∧
          exchange.command = Wire.Call.command (.request ⟨Wire.EventKind.breakpoint, .all,
            [.locationOnly ⟨Wire.Location.classTag, classId, method.id, first.codeIndex⟩]⟩) := by
  cases locations with
  | nil => exact absurd (List.nil_perm.mp sorted.same) some
  | cons first others =>
      have listed : first ∈ found := sorted.same.mem_iff.mp List.mem_cons_self
      obtain ⟨method, member, placed⟩ := places.of_mem listed
      refine ⟨first, others, method, rfl, member, placed, ?_, ?_⟩
      · intro other index present begins
        obtain ⟨location, there, placedThere⟩ := places.of_begins present begins
        rw [begins.unique placedThere.begins]
        rcases List.mem_cons.mp (sorted.same.mem_iff.mpr there) with rfl | behind
        · exact UInt64.le_refl _
        · exact (List.pairwise_cons.mp sorted.ascending).1 location behind
      · rintro situation rfl missing
        have sent (state : Remote τ) :
            ((target link chainLimit).respond (.enableBreakpoint first) state).log
              = [link.mark (Wire.Call.setBreakpoint (position first) .all).command state.link] := by
          change (call link (.setBreakpoint (position first) .all) state).log = _
          rw [call_eq]
        have positioned : position first
            = ⟨Wire.Location.classTag, classId, method.id, first.codeIndex⟩ := by
          rw [position, placed.classId, placed.methodId]
        rw [Session.setBreakpoint_log_of_located _ situation missing came, List.map_cons,
          List.map_cons, List.map_nil, Session.Moment.asking_eq came, Session.Moment.asking, sent,
          positioned]
        exact ⟨_, _, _, rfl, rfl⟩

/-- Every command has the same reply each time, and nothing else is known of the machine.  Whatever
has been asked before, a line beyond the numbers of the wire is not asked for, and any other line
is looked for in all methods of the class, unless these cannot be read or the debuggee is lost on
the way. -/
theorem lines_are_resolved {link : Link τ} (fixed : Fixed link reply kept) (chainLimit : Nat)
    {start : τ} (begins : kept start) (requests : List Request) {before : Remote τ}
    {classId : UInt64} {line : UInt32}
    (now : ⟨before, .locationsOfLine classId line⟩
      ∈ (target link chainLimit).course requests ⟨start, {}⟩) :
    (2 ^ 31 ≤ line.toNat -> exists reason,
        (target link chainLimit).respond (.locationsOfLine classId line) before
          = ⟨.failed (.noSuchElement reason), [], before⟩) ∧
      (line.toNat < 2 ^ 31 ->
        Unharmed ((target link chainLimit).respond (.locationsOfLine classId line) before).log ->
        forall methodList, settledBy reply (.methods classId) = .ok methodList ->
          ResolvesLine link chainLimit reply classId line before methodList) := by
  have bound : Int32.maxValue.toInt = 2 ^ 31 - 1 := rfl
  constructor
  · intro beyond
    refine ⟨s!"line {line.toNat}", ?_⟩
    change locationsOfLine link classId line before = _
    rw [locationsOfLine, if_pos (by omega)]
    rfl
  · intro fits unharmed methodList readable
    have informed := Informed.course fixed begins chainLimit requests _ now
    rcases locationsOfLine_outcome fixed fits readable informed unharmed with
      ⟨places, reason, failed⟩ | ⟨locations, found, some, came, places, sorted⟩
    · refine ⟨fun _ => ⟨reason, failed⟩, ?_, ?_⟩
      · rintro ⟨method, index, member, begins⟩
        obtain ⟨location, impossible, _⟩ := places.of_begins member begins
        cases impossible
      · intro locations came
        cases failed.symm.trans came
    · refine ⟨fun none => ?_, fun _ => ⟨locations, found, came, places, sorted⟩, ?_⟩
      · obtain ⟨location, member⟩ := List.exists_mem_of_ne_nil found some
        obtain ⟨method, present, placed⟩ := places.of_mem member
        exact absurd placed.begins (none method present _)
      · intro others cameToo
        cases came.symm.trans cameToo
        exact first_is_lowest link chainLimit came some places sorted

end Remote

/-! ## A line in several methods -/

/-- A class with four methods.  The line 3 begins at 6 in the first and in the last of them, and at
4 in the third; the table of the second cannot be read. -/
def scattered (command : Wire.Command) : Wire.Reply :=
  if command = (Wire.Call.methods 7).command then
    ⟨0, 0, Wire.listBytes Wire.MethodInfo.bytes
      [⟨1, "a", "()V", 0⟩, ⟨2, "b", "()V", 0⟩, ⟨3, "c", "()V", 0⟩, ⟨4, "d", "()V", 0⟩]⟩
  else if command = (Wire.Call.lineTable 7 1).command then
    ⟨0, 0, Wire.LineTable.bytes ⟨0, 20, [⟨9, 3⟩, ⟨6, 3⟩, ⟨0, 2⟩]⟩⟩
  else if command = (Wire.Call.lineTable 7 3).command then
    ⟨0, 0, Wire.LineTable.bytes ⟨0, 20, [⟨4, 3⟩]⟩⟩
  else if command = (Wire.Call.lineTable 7 4).command then
    ⟨0, 0, Wire.LineTable.bytes ⟨0, 20, [⟨6, 3⟩, ⟨8, 3⟩]⟩⟩
  else ⟨0, 101, []⟩

theorem scattered_fixed :
    Fixed (Client.link (replying scattered)) scattered (Expects noEvents) := by
  refine replying_fixed fun command => ?_
  unfold scattered
  repeat' split
  all_goals decide

open Remote in
/-- The lowest place is in the third method, and the second one does not hide it. -/
theorem scattered_line_is_resolved :
    let link := Client.link (replying scattered)
    let start : Remote (Client Unit) := ⟨Client.opened () { bytes := [] }, {}⟩
    let methodList : List Wire.MethodInfo :=
      [⟨1, "a", "()V", 0⟩, ⟨2, "b", "()V", 0⟩, ⟨3, "c", "()V", 0⟩, ⟨4, "d", "()V", 0⟩]
    (⟨start, .locationsOfLine 7 3⟩ : Turn _)
        ∈ (target link 1).course [.locationsOfLine 7 3] start ∧
      Unharmed ((target link 1).respond (.locationsOfLine 7 3) start).log ∧
      settledBy scattered (.methods 7) = .ok methodList ∧
      BeginsAt scattered 7 3 ⟨3, "c", "()V", 0⟩ 4 ∧
      ResolvesLine link 1 scattered 7 3 start methodList := by
  intro link start methodList
  have now : (⟨start, .locationsOfLine 7 3⟩ : Turn _)
      ∈ (target link 1).course [.locationsOfLine 7 3] start := List.mem_cons_self
  have unharmed : Unharmed (locationsOfLine link 7 3 start).log := by
    unfold Unharmed
    decide +kernel
  have readable : settledBy scattered (.methods 7) = .ok methodList := by decide +kernel
  have begins : BeginsAt scattered 7 3 ⟨3, "c", "()V", 0⟩ 4 := by
    refine ⟨⟨0, 20, [⟨4, 3⟩]⟩, by decide +kernel, ⟨_, List.mem_singleton_self _, rfl, rfl⟩, ?_⟩
    intro entry member _
    rw [List.mem_singleton.mp member]
    exact UInt64.le_refl 4
  have resolved := (lines_are_resolved scattered_fixed 1 replying_silent
    [.locationsOfLine 7 3] now).2 (by decide) unharmed methodList readable
  exact ⟨now, unharmed, readable, begins, resolved⟩

end Debuggee
end LineDebugger
