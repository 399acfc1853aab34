import LineDebugger.Wire.Record
import Mathlib.Data.List.Induction

namespace LineDebugger
namespace Wire
namespace LineTable

/-!
# Lines and code indexes

A line table is asked in two directions, and the two questions do not treat its entries alike.  A
code index belongs to the entry that is in force there: the greatest index wins, and of entries
that share it the last one in the table.  A line begins at the lowest index of all its entries, and
their order makes no difference.

So the way from a line to its index and back may end at another line.  It does if and only if the
index is given to another line further down in the table.
-/

variable {entries : List LineEntry} {best entry : LineEntry} {table : LineTable}
  {index first : UInt64} {line : Int32}

/-! ## The entry that is kept -/

/-- No entry has a greater code index, and no later one has the same. -/
def Prevails (entries : List LineEntry) (entry : LineEntry) : Prop :=
  exists earlier after, entries = earlier ++ entry :: after ∧
    (forall other, other ∈ earlier -> other.codeIndex ≤ entry.codeIndex) ∧
    forall other, other ∈ after -> other.codeIndex < entry.codeIndex

theorem Prevails.mem (prevails : Prevails entries entry) : entry ∈ entries := by
  obtain ⟨earlier, after, rfl, _⟩ := prevails
  exact List.mem_append_right earlier List.mem_cons_self

theorem Prevails.greatest (prevails : Prevails entries entry) :
    forall other, other ∈ entries -> other.codeIndex ≤ entry.codeIndex := by
  obtain ⟨earlier, after, rfl, before, behind⟩ := prevails
  intro other member
  rcases List.mem_append.mp member with front | back
  · exact before other front
  · rcases List.mem_cons.mp back with rfl | back
    · exact UInt64.le_refl _
    · exact UInt64.le_of_lt (behind other back)

/-- Entries with lower indexes do not take the place of one that is kept. -/
theorem foldl_later_of_lt {after : List LineEntry}
    (behind : forall other, other ∈ after -> other.codeIndex < best.codeIndex) :
    after.foldl later (some best) = some best := by
  induction after with
  | nil => rfl
  | cons other after inductionHypothesis =>
      rcases List.forall_mem_cons.mp behind with ⟨lower, others⟩
      have stays : later (some best) other = some best := if_neg (UInt64.not_le.mpr lower)
      rw [List.foldl_cons, stays]
      exact inductionHypothesis others

/-- The induction is on the table from its end, since it is the last entry that is judged last. -/
theorem foldl_later (entries : List LineEntry) :
    (entries.foldl later none = none ∧ entries = []) ∨
      exists best, entries.foldl later none = some best ∧ Prevails entries best := by
  induction entries using List.reverseRecOn with
  | nil => exact Or.inl ⟨rfl, rfl⟩
  | append_singleton entries entry inductionHypothesis =>
      refine Or.inr ?_
      rw [List.foldl_append, List.foldl_cons, List.foldl_nil]
      rcases inductionHypothesis with ⟨none, rfl⟩ | ⟨best, kept, prevails⟩
      · rw [none]
        exact ⟨entry, rfl, [], [], rfl, List.forall_mem_nil _, List.forall_mem_nil _⟩
      · rw [kept]
        by_cases reached : best.codeIndex ≤ entry.codeIndex
        · refine ⟨entry, if_pos reached, entries, [], rfl, ?_, List.forall_mem_nil _⟩
          exact fun other member => UInt64.le_trans (prevails.greatest other member) reached
        · obtain ⟨earlier, after, rfl, before, behind⟩ := prevails
          refine ⟨best, if_neg reached, earlier, after ++ [entry], ?_, before, ?_⟩
          · rw [List.append_assoc, List.cons_append]
          · exact List.forall_mem_append.mpr
              ⟨behind, List.forall_mem_singleton.mpr (UInt64.not_le.mp reached)⟩

theorem foldl_later_eq_some_iff :
    entries.foldl later none = some best ↔ Prevails entries best := by
  constructor
  · intro kept
    rcases foldl_later entries with ⟨none, _⟩ | ⟨other, same, prevails⟩
    · cases none.symm.trans kept
    · cases same.symm.trans kept
      exact prevails
  · rintro ⟨earlier, after, rfl, before, behind⟩
    have taken : later (earlier.foldl later none) best = some best := by
      rcases foldl_later earlier with ⟨none, _⟩ | ⟨held, same, prevails⟩
      · rw [none]
        rfl
      · rw [same]
        exact if_pos (before held prevails.mem)
    rw [List.foldl_append, List.foldl_cons, taken]
    exact foldl_later_of_lt behind

theorem foldl_later_eq_none_iff : entries.foldl later none = none ↔ entries = [] := by
  rcases foldl_later entries with ⟨none, empty⟩ | ⟨best, kept, prevails⟩
  · exact iff_of_true none empty
  · refine iff_of_false ?_ (List.ne_nil_of_mem prevails.mem)
    rw [kept]
    exact Option.some_ne_none best

/-! ## From a code index to its line -/

/-- The entry is the last one, in the order of the table, among those with the greatest code index
that is not above the given one. -/
structure InForce (table : LineTable) (index : UInt64) (entry : LineEntry) : Prop where
  begun : entry.codeIndex ≤ index
  last : exists earlier after, table.entries = earlier ++ entry :: after ∧
    (forall other, other ∈ earlier -> other.codeIndex ≤ index ->
      other.codeIndex ≤ entry.codeIndex) ∧
    forall other, other ∈ after -> other.codeIndex ≤ index -> other.codeIndex < entry.codeIndex

/-- The entries that have begun at an index. -/
theorem prevails_filter_iff :
    Prevails (table.entries.filter fun entry => entry.codeIndex ≤ index) entry ↔
      table.InForce index entry := by
  constructor
  · rintro ⟨earlier, after, split, before, behind⟩
    obtain ⟨front, back, whole, rfl, rest⟩ := List.filter_eq_append_iff.mp split
    obtain ⟨passed, others, rfl, unbegun, begun, rfl⟩ := List.filter_eq_cons_iff.mp rest
    refine ⟨of_decide_eq_true begun, front ++ passed, others, ?_, ?_, ?_⟩
    · rw [whole, List.append_assoc]
    · intro other member already
      rcases List.mem_append.mp member with member | member
      · exact before other (List.mem_filter.mpr ⟨member, decide_eq_true already⟩)
      · exact absurd (decide_eq_true already) (unbegun other member)
    · intro other member already
      exact behind other (List.mem_filter.mpr ⟨member, decide_eq_true already⟩)
  · rintro ⟨begun, earlier, after, whole, before, behind⟩
    have kept : (decide (entry.codeIndex ≤ index)) = true := decide_eq_true begun
    refine ⟨earlier.filter fun entry => entry.codeIndex ≤ index,
      after.filter fun entry => entry.codeIndex ≤ index, ?_, ?_, ?_⟩
    · rw [whole, List.filter_append, List.filter_cons, if_pos kept]
    · intro other member
      obtain ⟨member, already⟩ := List.mem_filter.mp member
      exact before other member (of_decide_eq_true already)
    · intro other member
      obtain ⟨member, already⟩ := List.mem_filter.mp member
      exact behind other member (of_decide_eq_true already)

theorem lineForIndex_eq_some_iff :
    table.lineForIndex index = some line ↔
      exists entry, table.InForce index entry ∧ entry.line = line := by
  unfold lineForIndex
  simp only [Option.map_eq_some_iff, foldl_later_eq_some_iff, prevails_filter_iff]

theorem lineForIndex_eq_none_iff :
    table.lineForIndex index = none ↔
      forall entry, entry ∈ table.entries -> index < entry.codeIndex := by
  unfold lineForIndex
  rw [Option.map_eq_none_iff, foldl_later_eq_none_iff, List.filter_eq_nil_iff]
  simp only [decide_eq_true_eq, UInt64.not_le]

/-! ## From a line to its code index -/

/-- The index is the lowest one of the entries of the line. -/
structure Opens (table : LineTable) (line : Int32) (index : UInt64) : Prop where
  entry : exists entry, entry ∈ table.entries ∧ entry.line = line ∧ entry.codeIndex = index
  least : forall entry, entry ∈ table.entries -> entry.line = line -> index ≤ entry.codeIndex

theorem firstIndexOfLine_iff_opens :
    table.firstIndexOfLine line = some index ↔ table.Opens line index := by
  have listed (value : UInt64) :
      value ∈ (table.entries.filter fun entry => entry.line == line).map LineEntry.codeIndex ↔
        exists entry, entry ∈ table.entries ∧ entry.line = line ∧ entry.codeIndex = value := by
    simp only [List.mem_map, List.mem_filter, beq_iff_eq, and_assoc]
  unfold firstIndexOfLine
  rw [List.min?_eq_some_iff, listed]
  constructor
  · rintro ⟨entry, least⟩
    exact ⟨entry, fun other member same => least _ ((listed _).mpr ⟨other, member, same, rfl⟩)⟩
  · rintro ⟨entry, least⟩
    refine ⟨entry, fun value member => ?_⟩
    obtain ⟨other, present, same, rfl⟩ := (listed value).mp member
    exact least other present same

theorem firstIndexOfLine_eq_none_iff :
    table.firstIndexOfLine line = none ↔
      forall entry, entry ∈ table.entries -> entry.line ≠ line := by
  unfold firstIndexOfLine
  rw [List.min?_eq_none_iff, List.map_eq_nil_iff, List.filter_eq_nil_iff]
  simp only [beq_iff_eq, ne_eq]

/-! ## There and back -/

/-- The entry is the last one of the table with this code index. -/
structure LastAt (table : LineTable) (index : UInt64) (entry : LineEntry) : Prop where
  here : entry.codeIndex = index
  last : exists earlier after, table.entries = earlier ++ entry :: after ∧
    forall other, other ∈ after -> other.codeIndex ≠ index

/-- Where some entry begins, the last one to begin there is in force. -/
theorem inForce_iff_lastAt
    (begins : exists other, other ∈ table.entries ∧ other.codeIndex = index) :
    table.InForce index entry ↔ table.LastAt index entry := by
  constructor
  · rintro ⟨begun, earlier, after, whole, before, behind⟩
    -- Some entry begins exactly here, and the one in force does not begin before it.
    have here : entry.codeIndex = index := by
      obtain ⟨other, member, rfl⟩ := begins
      refine UInt64.le_antisymm begun ?_
      rw [whole] at member
      rcases List.mem_append.mp member with front | back
      · exact before other front (UInt64.le_refl _)
      · rcases List.mem_cons.mp back with rfl | back
        · exact UInt64.le_refl _
        · exact UInt64.le_of_lt (behind other back (UInt64.le_refl _))
    refine ⟨here, earlier, after, whole, fun other member same => ?_⟩
    have lower := behind other member (same ▸ UInt64.le_refl _)
    rw [same, here] at lower
    exact UInt64.lt_irrefl index lower
  · rintro ⟨rfl, earlier, after, whole, others⟩
    refine ⟨UInt64.le_refl _, earlier, after, whole, fun other _ begun => begun, ?_⟩
    exact fun other member begun => UInt64.lt_of_le_of_ne begun (others other member)

/-- A line is found again from its first index if and only if the last entry at this index is one
of the line. -/
theorem lineForIndex_of_opens (opens : table.Opens line first) :
    table.lineForIndex first = some line ↔
      exists entry, table.LastAt first entry ∧ entry.line = line := by
  obtain ⟨entry, member, _, begins⟩ := opens.entry
  rw [lineForIndex_eq_some_iff]
  simp only [inForce_iff_lastAt ⟨entry, member, begins⟩]

/-- Without repeated indexes every entry is the last one at its index. -/
theorem lastAt_of_nodup (distinct : (table.entries.map LineEntry.codeIndex).Nodup)
    (member : entry ∈ table.entries) : table.LastAt entry.codeIndex entry := by
  obtain ⟨earlier, after, whole⟩ := List.append_of_mem member
  refine ⟨rfl, earlier, after, whole, fun other behind same => ?_⟩
  rw [whole, List.map_append, List.map_cons] at distinct
  have unlisted := (List.nodup_cons.mp (List.nodup_append.mp distinct).2.1).1
  exact unlisted (List.mem_map.mpr ⟨other, behind, same⟩)

end LineTable
end Wire
end LineDebugger
