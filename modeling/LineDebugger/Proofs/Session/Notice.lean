import LineDebugger.Session.Run

namespace LineDebugger
namespace Session

open Debuggee

/-!
# Lines that are no notice

The end of a session is announced by one of two notices.  Operators and programs that
watch a session rely on them, so nothing else that a session writes may read like a
notice, whatever names and texts the debuggee comes up with.  The lemmas here settle this
for every line that a session composes, from the shape of the line alone.
-/

/-- A line that is neither of the two notices. -/
def Plain (line : String) : Prop := line ≠ endNotice ∧ line ≠ lossNotice

/-! ## Shapes that no notice has -/

theorem plain_of_colon {line : String} (colon : ':' ∈ line.toList) : Plain line := by
  constructor <;> rintro rfl <;> revert colon <;> decide

theorem plain_of_head {line : String} (first : Char) (head : line.toList.head? = some first)
    (different : first ≠ 'V') : Plain line := by
  have ends : endNotice.toList.head? = some 'V' := by decide
  have loses : lossNotice.toList.head? = some 'V' := by decide
  constructor <;> rintro rfl
  · exact different (Option.some.inj (head.symm.trans ends))
  · exact different (Option.some.inj (head.symm.trans loses))

theorem plain_of_last {line : String} (last : Char) (final : line.toList.getLast? = some last)
    (different : last ≠ '.') : Plain line := by
  have ends : endNotice.toList.getLast? = some '.' := by decide
  have loses : lossNotice.toList.getLast? = some '.' := by decide
  constructor <;> rintro rfl
  · exact different (Option.some.inj (final.symm.trans ends))
  · exact different (Option.some.inj (final.symm.trans loses))

/-- A line that begins with a text of the session's own. -/
theorem plain_append {opening : String} (first : Char) (rest : String)
    (head : opening.toList.head? = some first) (different : first ≠ 'V') :
    Plain (opening ++ rest) := by
  refine plain_of_head first ?_ different
  rw [String.toList_append, List.head?_append, head]
  rfl

/-- A line in which a colon separates what the debuggee named. -/
theorem plain_colon (before after : String) : Plain (before ++ ": " ++ after) :=
  plain_of_colon (by simp only [String.toList_append]; simp)

/-! ## The lines of a session -/

instance (line : String) : Decidable (Plain line) := inferInstanceAs (Decidable (_ ∧ _))

theorem helpLines_plain : forall line, line ∈ Command.helpLines -> Plain line := by decide

/-- Reasons come last in a message, so they cannot change how it begins. -/
theorem targetError_message_plain (error : TargetError) : Plain error.message := by
  cases error with
  | notAvailable reason => exact plain_append 't' reason (by decide) (by decide)
  | noSuchElement reason => exact plain_append 'n' reason (by decide) (by decide)
  | other reason => exact plain_append 't' reason (by decide) (by decide)

theorem commandError_message_plain (error : CommandError) : Plain error.message := by
  cases error with
  | noLocationForLine line => exact plain_append 'N' _ (by decide) (by decide)
  | noSuchVariable name =>
      change Plain ("variable: " ++ name ++ " not found. Probably a wrong input.")
      exact plain_of_colon (by simp)
  | noSuchField name =>
      change Plain ("Field " ++ name ++ " cannot be found, probably a wrong input.")
      exact plain_of_head 'F' (by simp) (by decide)
  | indexOutOfRange index length =>
      change Plain s!"Index out of bounds: {index.toInt} (length {length})"
      exact plain_of_colon (by simp [toString])
  | malformedNumber text => exact plain_append 'N' _ (by decide) (by decide)
  | duplicateBreakpoint line => exact plain_append 'B' _ (by decide) (by decide)
  | noContext => decide
  | inputClosed => decide
  | target error => exact targetError_message_plain error

theorem breakpoint_describe_plain (breakpoint : Breakpoint) : Plain breakpoint.describe := by
  refine plain_of_colon ?_
  simp [Breakpoint.describe, Location.text]

theorem variable_describe_plain (shown : LocalVariable) (value : String) :
    Plain (shown.describe value) := by
  refine plain_of_colon ?_
  simp [LocalVariable.describe]

end Session
end LineDebugger
