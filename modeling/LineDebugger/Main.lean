import LineDebugger.CommandLine.Usage

/-!
# The command line program

Reads the command line and answers what can be answered without a virtual machine: the
questions for help and for the version, the reason why a command line is refused, and
for one that is in order how the machine to debug is launched or where it is expected
to listen.
-/

open LineDebugger.CommandLine

/-- The environment variable that may name the launcher. -/
def launcherVariable : String := "LWDB_JAVA"

/-- What is said about a refused command line, after the reason. -/
def refusalNote : String :=
  "\n\n" ++ usageLine ++ "\n\nFor more information, try '--help'."

/-- What a command line in order leads to.  The port stands for one that is free. -/
def planText (options : Options) : String :=
  match options.attach with
  | some endpoint => "attach to " ++ endpoint.render
  | none => " ".intercalate (options.java :: options.jvmCommand 0)

def main (arguments : List String) : IO UInt32 := do
  let environment ← IO.getEnv launcherVariable
  match Options.parse arguments environment with
  | .ok options =>
      IO.println (planText options)
      return 0
  | .error (.asked question) =>
      IO.print (question.answer environment)
      return 0
  | .error refusal =>
      IO.eprintln (refusal.message ++ refusalNote)
      return 2
