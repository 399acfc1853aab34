import LineDebugger.Debuggee.Value

namespace LineDebugger
namespace Session

open Debuggee

/-!
# The breakpoint table

A session keeps at most one breakpoint per source line.  The table lists them by line.
It says nothing to the target: whoever adds or removes an entry sees to that.
-/

/-- A breakpoint: the line the operator asked for, the place that was found for it, and
the event request that stands for it. -/
structure Breakpoint where
  line : UInt32
  location : Location
  request : Int32
  enabled : Bool := true
  deriving DecidableEq, Repr

/-- What the operator sees of a breakpoint. -/
def Breakpoint.describe (breakpoint : Breakpoint) : String :=
  breakpoint.location.text ++ " in method " ++ breakpoint.location.qualifiedMethod

/-- The breakpoints of a session, by ascending line. -/
structure BreakpointTable where
  entries : List Breakpoint := []
  deriving DecidableEq, Repr

namespace BreakpointTable

/-- The breakpoint of a line. -/
def get? (table : BreakpointTable) (line : UInt32) : Option Breakpoint :=
  table.entries.find? fun entry => entry.line == line

/-- Put a breakpoint in its place in a list.  An entry of the same line stays as it is. -/
def place (breakpoint : Breakpoint) : List Breakpoint -> List Breakpoint
  | [] => [breakpoint]
  | entry :: others =>
      if breakpoint.line < entry.line then breakpoint :: entry :: others
      else if entry.line = breakpoint.line then entry :: others
      else entry :: place breakpoint others

/-- Add a breakpoint. -/
def insert (table : BreakpointTable) (breakpoint : Breakpoint) : BreakpointTable :=
  ⟨place breakpoint table.entries⟩

/-- Remove the breakpoint of a line. -/
def erase (table : BreakpointTable) (line : UInt32) : BreakpointTable :=
  ⟨table.entries.filter fun entry => entry.line != line⟩

/-- The event requests that stand for the breakpoints. -/
def requests (table : BreakpointTable) : List Int32 := table.entries.map Breakpoint.request

end BreakpointTable
end Session
end LineDebugger
