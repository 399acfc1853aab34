import Mathlib.Data.Finset.Dedup
import Mathlib.Data.Finset.Insert
import Mathlib.Data.Finset.Erase
import LineDebugger.Session.BreakpointTable

namespace LineDebugger
namespace Session

/-!
# What the breakpoint table holds

Adding a breakpoint for a new line adds this entry and no other, and removing a line
removes the one entry that it has.  For this the order of the entries does not matter; lists
are compared up to permutation, and their event requests as sets.  That the lines ascend is a
statement of its own, and it is kept by both.
-/

namespace BreakpointTable

variable {table : BreakpointTable} {breakpoint : Breakpoint} {line : UInt32}

/-- A table with one entry a line. -/
def Functional (table : BreakpointTable) : Prop := (table.entries.map Breakpoint.line).Nodup

/-! ## Looking up -/

theorem absent_of_get?_eq_none (missing : table.get? line = none) :
    forall entry, entry ∈ table.entries -> entry.line ≠ line := by
  intro entry member same
  have different := List.find?_eq_none.mp missing entry member
  exact different (beq_iff_eq.mpr same)

theorem mem_of_get?_eq_some (found : table.get? line = some breakpoint) :
    breakpoint ∈ table.entries ∧ breakpoint.line = line := by
  unfold get? at found
  have same := List.find?_some found
  exact ⟨List.mem_of_find?_eq_some found, beq_iff_eq.mp same⟩

/-! ## Adding -/

/-- The induction is on the entries passed by; none of them has the line. -/
theorem place_perm {entries : List Breakpoint}
    (absent : forall entry, entry ∈ entries -> entry.line ≠ breakpoint.line) :
    (place breakpoint entries).Perm (breakpoint :: entries) := by
  induction entries with
  | nil => exact .refl _
  | cons entry others inductionHypothesis =>
      unfold place
      split
      · exact .refl _
      · rw [if_neg (absent entry (List.mem_cons.mpr (Or.inl rfl)))]
        have later := inductionHypothesis fun other member =>
          absent other (List.mem_cons.mpr (Or.inr member))
        exact (later.cons entry).trans (.swap breakpoint entry others)

theorem insert_perm (missing : table.get? breakpoint.line = none) :
    (table.insert breakpoint).entries.Perm (breakpoint :: table.entries) :=
  place_perm (absent_of_get?_eq_none missing)

theorem Functional.insert (functional : table.Functional)
    (missing : table.get? breakpoint.line = none) :
    (table.insert breakpoint).Functional := by
  have lines := (insert_perm missing).map Breakpoint.line
  refine lines.nodup_iff.mpr (List.nodup_cons.mpr ⟨?_, functional⟩)
  intro member
  obtain ⟨entry, present, same⟩ := List.mem_map.mp member
  exact absent_of_get?_eq_none missing entry present same

theorem requests_insert_perm (missing : table.get? breakpoint.line = none) :
    (table.insert breakpoint).requests.Perm (breakpoint.request :: table.requests) :=
  (insert_perm missing).map Breakpoint.request

/-! ## Removing -/

theorem Functional.erase (functional : table.Functional) (line : UInt32) :
    (table.erase line).Functional :=
  functional.sublist (List.filter_sublist.map Breakpoint.line)

theorem requests_erase_sublist (table : BreakpointTable) (line : UInt32) :
    (table.erase line).requests.Sublist table.requests :=
  List.filter_sublist.map Breakpoint.request

/-- What is removed with a line is the request of its breakpoint and no other, since neither
lines nor requests are shared. -/
theorem requests_erase_toFinset (functional : table.Functional)
    (distinct : table.requests.Nodup) (present : breakpoint ∈ table.entries) :
    (table.erase breakpoint.line).requests.toFinset =
      table.requests.toFinset.erase breakpoint.request := by
  ext request
  rw [List.mem_toFinset, Finset.mem_erase, List.mem_toFinset]
  constructor
  · intro member
    obtain ⟨entry, kept, rfl⟩ := List.mem_map.mp member
    obtain ⟨known, otherLine⟩ := List.mem_filter.mp kept
    refine ⟨fun same => ?_, List.mem_map.mpr ⟨entry, known, rfl⟩⟩
    have equal := List.inj_on_of_nodup_map distinct known present same
    rw [equal, bne_self_eq_false] at otherLine
    exact Bool.false_ne_true otherLine
  · rintro ⟨different, member⟩
    obtain ⟨entry, known, rfl⟩ := List.mem_map.mp member
    refine List.mem_map.mpr ⟨entry, List.mem_filter.mpr ⟨known, ?_⟩, rfl⟩
    refine bne_iff_ne.mpr fun same => different ?_
    rw [List.inj_on_of_nodup_map functional known present same]

/-! ## By line -/

theorem get?_insert_self (missing : table.get? breakpoint.line = none) :
    (table.insert breakpoint).get? breakpoint.line = some breakpoint := by
  have added := insert_perm missing
  cases found : (table.insert breakpoint).get? breakpoint.line with
  | none =>
      have listed := added.mem_iff.mpr List.mem_cons_self
      exact absurd rfl (absent_of_get?_eq_none found breakpoint listed)
  | some entry =>
      obtain ⟨present, same⟩ := mem_of_get?_eq_some found
      rcases List.mem_cons.mp (added.mem_iff.mp present) with rfl | listed
      · rfl
      · exact absurd same (absent_of_get?_eq_none missing entry listed)

/-- Wherever a breakpoint has been placed, it is passed by on the way to another line. -/
theorem get?_insert_of_ne (other : line ≠ breakpoint.line) :
    (table.insert breakpoint).get? line = table.get? line := by
  have passed : (breakpoint.line == line) = false := beq_eq_false_iff_ne.mpr other.symm
  unfold get? insert
  induction table.entries with
  | nil => simp only [place, List.find?_cons, passed, List.find?_nil]
  | cons entry others inductionHypothesis =>
      unfold place
      split
      · rw [List.find?_cons, passed]
      · split
        · rfl
        · rw [List.find?_cons, List.find?_cons, inductionHypothesis]

theorem get?_erase_self (table : BreakpointTable) (line : UInt32) :
    (table.erase line).get? line = none := by
  refine List.find?_eq_none.mpr fun entry kept same => ?_
  have otherLine := (List.mem_filter.mp kept).2
  exact absurd (beq_iff_eq.mp same) (bne_iff_ne.mp otherLine)

theorem get?_erase_of_ne {erased : UInt32} (other : line ≠ erased) :
    (table.erase erased).get? line = table.get? line := by
  unfold get? erase
  rw [List.find?_filter]
  congr 1
  funext entry
  by_cases same : entry.line = line
  · simp only [same, bne_iff_ne.mpr other, beq_self_eq_true, and_self, decide_true]
  · simp only [beq_eq_false_iff_ne.mpr same, Bool.false_eq_true, and_false, decide_false]

theorem filter_place {entries : List Breakpoint}
    (absent : forall entry, entry ∈ entries -> entry.line ≠ breakpoint.line) :
    (place breakpoint entries).filter (fun entry => entry.line != breakpoint.line) = entries := by
  have dropped : (breakpoint.line != breakpoint.line) = false := bne_self_eq_false breakpoint.line
  induction entries with
  | nil => rw [place, List.filter_cons, dropped]; rfl
  | cons entry others inductionHypothesis =>
      have different := absent entry List.mem_cons_self
      have kept : (entry.line != breakpoint.line) = true := bne_iff_ne.mpr different
      have later := inductionHypothesis fun other member =>
        absent other (List.mem_cons_of_mem entry member)
      unfold place
      split
      · rw [List.filter_cons, dropped]
        exact List.filter_eq_self.mpr fun other member => bne_iff_ne.mpr (absent other member)
      · rw [List.filter_cons, if_pos kept, later]

/-- A breakpoint that has been added for a new line can be taken out again. -/
theorem erase_insert (missing : table.get? breakpoint.line = none) :
    (table.insert breakpoint).erase breakpoint.line = table :=
  congrArg BreakpointTable.mk (filter_place (absent_of_get?_eq_none missing))

/-! ## In order -/

/-- A table in which the lines ascend. -/
def Ascending (table : BreakpointTable) : Prop :=
  table.entries.Pairwise fun entry later => entry.line < later.line

theorem Ascending.functional (ascending : table.Ascending) : table.Functional :=
  List.pairwise_map.mpr (ascending.imp UInt32.ne_of_lt)

theorem Functional.get?_of_mem (functional : table.Functional)
    (present : breakpoint ∈ table.entries) : table.get? breakpoint.line = some breakpoint := by
  cases found : table.get? breakpoint.line with
  | none => exact absurd rfl (absent_of_get?_eq_none found breakpoint present)
  | some entry =>
      obtain ⟨listed, same⟩ := mem_of_get?_eq_some found
      exact congrArg some (List.inj_on_of_nodup_map functional listed present same)

/-- The breakpoint goes in front of the first entry with a higher line. -/
theorem place_ascending {entries : List Breakpoint}
    (ascending : entries.Pairwise fun entry later => entry.line < later.line)
    (absent : forall entry, entry ∈ entries -> entry.line ≠ breakpoint.line) :
    (place breakpoint entries).Pairwise fun entry later => entry.line < later.line := by
  induction entries with
  | nil => exact List.pairwise_singleton _ _
  | cons entry others inductionHypothesis =>
      obtain ⟨first, rest⟩ := List.pairwise_cons.mp ascending
      have later := fun other member => absent other (List.mem_cons_of_mem entry member)
      unfold place
      split
      · rename_i below
        refine List.pairwise_cons.mpr ⟨fun other member => ?_, ascending⟩
        rcases List.mem_cons.mp member with rfl | behind
        · exact below
        · exact UInt32.lt_trans below (first other behind)
      · rename_i notBelow
        have different := absent entry List.mem_cons_self
        rw [if_neg different]
        refine List.pairwise_cons.mpr ⟨fun other member => ?_, inductionHypothesis rest later⟩
        rcases List.mem_cons.mp ((place_perm later).mem_iff.mp member) with rfl | behind
        · exact UInt32.lt_of_le_of_ne (UInt32.not_lt.mp notBelow) different
        · exact first other behind

theorem Ascending.insert (ascending : table.Ascending)
    (missing : table.get? breakpoint.line = none) : (table.insert breakpoint).Ascending :=
  place_ascending ascending (absent_of_get?_eq_none missing)

theorem Ascending.erase (ascending : table.Ascending) (line : UInt32) :
    (table.erase line).Ascending :=
  ascending.sublist List.filter_sublist

end BreakpointTable
end Session
end LineDebugger
