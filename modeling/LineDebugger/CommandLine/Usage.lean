import LineDebugger.CommandLine.Options
import LineDebugger.Text.Lines
import LineDebugger.Text.Terminal

namespace LineDebugger
namespace CommandLine

open Text.Terminal (Role)

/-!
# Explanations of the command line

The texts that answer questions about the command line and say why one was refused.  They
are written for a terminal, and shown plain.
-/

/-- The program and its version. -/
def versionText : String := "lwdb 0.1.0\n"

/-- How the program is called, without the heading. -/
def callText : String := " [OPTIONS] <MAIN_CLASS> [-- <PROGRAM_ARGS>...]"

/-- How the program is called. -/
def usageLine : String := "Usage: lwdb" ++ callText

/-- The room in front of the explanation of an option. -/
def explanationIndent : Nat := 10

/-- The explanation of an option, on a line of its own. -/
def explanation (text : String) : String :=
  Text.indented explanationIndent ("\n" ++ text)

/-- An option with a name of one letter, or room for one. -/
def optionNames (letter : Option Char) (name : String) : String :=
  (match letter with
    | some letter => "  " ++ Role.literal.set ("-" ++ String.singleton letter) ++ ", "
    | none => "      ")
    ++ Role.literal.set ("--" ++ name)

/-- A setting with its explanation. -/
def settingHelp (letter : Option Char) (setting : Setting) (text : String) : String :=
  optionNames letter setting.name ++ " <" ++ setting.valueName ++ ">" ++ explanation text

/-- A question with its explanation. -/
def questionHelp (letter : Char) (name text : String) : String :=
  optionNames (some letter) name ++ explanation text

/-- The explanation of every argument, for a terminal. -/
def terminalHelp (environment : Option String) : String :=
  "\n".intercalate
    ["Lightweight interactive Java debugger over JDWP",
     "",
     Role.heading.set "Usage:" ++ " " ++ Role.literal.set "lwdb" ++ callText,
     "",
     Role.heading.set "Arguments:",
     "  <MAIN_CLASS>       Fully-qualified name of the class whose main method is debugged",
     "  [PROGRAM_ARGS]...  Arguments for the program's main method",
     "",
     Role.heading.set "Options:",
     settingHelp (some 'c') .classPath "Class path handed to the JVM",
     settingHelp none .jvmArgument "Extra JVM option, repeatable",
     settingHelp none .java
       ("Java launcher to run [env: LWDB_JAVA=" ++ environment.getD "" ++ "] [default: java]"),
     settingHelp none .attach
       ("Attach to a JVM started with -agentlib:jdwp=...,server=y,suspend=y instead of "
         ++ "launching one"),
     settingHelp none .timeout
       "How long to keep retrying the debugger connection [default: 10000]",
     questionHelp 'h' "help" "Print help",
     questionHelp 'V' "version" "Print version",
     ""]

/-- The explanation of every argument.  It shows what the environment says about the
launcher. -/
def helpText (environment : Option String) : String :=
  Text.Terminal.plain (terminalHelp environment)

/-- The long name of a question. -/
def Question.name : Question -> String
  | .help => "--help"
  | .version => "--version"

/-- The answer to a question. -/
def Question.answer (environment : Option String) : Question -> String
  | .help => helpText environment
  | .version => versionText

/-- What is wrong with a command line, for a terminal. -/
def Refusal.complaint : Refusal -> String
  | .asked question => question.name
  | .unknownArgument argument =>
      "unexpected argument '" ++ Role.refused.set argument ++ "' found"
  | .missingValue setting =>
      "a value is required for '" ++ Role.literal.set setting.usage
        ++ "' but none was supplied"
  | .badValue setting value reason =>
      "invalid value '" ++ Role.refused.set value ++ "' for '"
        ++ Role.literal.set setting.usage ++ "': " ++ reason
  | .repeated setting =>
      "the argument '" ++ Role.refused.set setting.usage ++ "' cannot be used multiple times"
  | .needlessValue question value =>
      "unexpected value '" ++ Role.refused.set value ++ "' for '"
        ++ Role.literal.set question.name ++ "' found; no more were expected"
  | .missingMainClass =>
      "the following required arguments were not provided:\n  "
        ++ Role.accepted.set "<MAIN_CLASS>"

/-- Why a command line was refused. -/
def Refusal.message (refusal : Refusal) : String :=
  Text.Terminal.plain (Role.fault.set "error:" ++ " " ++ refusal.complaint)

/-- The first line of the reason for a refusal. -/
def Refusal.headline (refusal : Refusal) : String :=
  String.ofList (Text.firstLine refusal.message.toList)

end CommandLine
end LineDebugger
