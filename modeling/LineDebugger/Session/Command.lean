import LineDebugger.Text.Blank

namespace LineDebugger
namespace Session

/-!
# The operator's commands

A command is one of eleven short words, written alone on a line.  Case matters, blanks
around the word do not.
-/

/-- What the operator can ask for. -/
inductive Command where
  | resume | stepOver | stepInto | setBreakpoint | deleteBreakpoint | showBreakpoints
  | showFrame | showStack | print | help | exit
  deriving DecidableEq, Repr

namespace Command

/-- The words of the commands. -/
def words : List (String × Command) :=
  [("r", .resume), ("n", .stepOver), ("ni", .stepInto), ("b", .setBreakpoint),
   ("db", .deleteBreakpoint), ("sb", .showBreakpoints), ("sf", .showFrame),
   ("st", .showStack), ("p", .print), ("h", .help), ("e", .exit)]

/-- The command on a line, if there is one. -/
def ofLine? (line : String) : Option Command := words.lookup (Text.trim line)

/-- The lines that explain the commands. -/
def helpLines : List String :=
  ["Press h for help",
   "Press e for exit",
   "Press r for run",
   "Press n to step over the current line",
   "Write ni to step into the current line",
   "Press b for setting a breakpoint",
   "Write db to delete a breakpoint",
   "Write sb to show the breakpoints",
   "Write sf to print the current stack frame",
   "Write st to print the current stack trace",
   "Press p for printing a object value or an array element"]

end Command
end Session
end LineDebugger
