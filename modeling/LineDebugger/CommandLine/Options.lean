import LineDebugger.CommandLine.Endpoint

namespace LineDebugger
namespace CommandLine

/-!
# Command lines

A command line names the class to debug, after or between options, and may end with the
arguments of the debugged program after two dashes.  Nothing after the two dashes is
ever taken for an option.

The value of an option may be attached to it or be the next argument.  A value that is
the next argument is judged only when the reader goes on to something that it knows, so
an argument that is not known is reported before a bad value in front of it.
-/

/-- The options that take a value. -/
inductive Setting where
  | classPath
  | jvmArgument
  | java
  | attach
  | timeout
  deriving DecidableEq, Repr

namespace Setting

/-- The long name of an option. -/
def name : Setting -> String
  | .classPath => "classpath"
  | .jvmArgument => "jvm-arg"
  | .java => "java"
  | .attach => "attach"
  | .timeout => "connect-timeout-ms"

/-- What stands for the value of an option in explanations. -/
def valueName : Setting -> String
  | .classPath => "CLASSPATH"
  | .jvmArgument => "ARG"
  | .java => "JAVA"
  | .attach => "HOST:PORT"
  | .timeout => "CONNECT_TIMEOUT_MS"

/-- An option as explanations write it. -/
def usage (setting : Setting) : String :=
  "--" ++ setting.name ++ " <" ++ setting.valueName ++ ">"

/-- The options by their names. -/
def ofName? (name : String) : Option Setting :=
  [classPath, jvmArgument, java, attach, timeout].find? fun setting => setting.name == name

/-- Whether the next argument is the value even if it looks like an option. -/
def takesAnything (setting : Setting) : Bool := setting == .jvmArgument

end Setting

/-- The questions that a command line can ask instead of starting anything. -/
inductive Question where
  | help
  | version
  deriving DecidableEq, Repr

/-- Why a command line is not carried out. -/
inductive Refusal where
  | asked (question : Question)
  | unknownArgument (argument : String)
  /-- An option that needs a value has none, or an empty one where that cannot be. -/
  | missingValue (setting : Setting)
  | badValue (setting : Setting) (value reason : String)
  | repeated (setting : Setting)
  | needlessValue (question : Question) (value : String)
  | missingMainClass
  deriving DecidableEq, Repr

/-- What a command line says. -/
structure Options where
  mainClass : String
  classPath : Option String := none
  jvmArguments : List String := []
  java : String := "java"
  attach : Option Endpoint := none
  timeout : UInt64 := 10000
  programArguments : List String := []
  deriving DecidableEq, Repr

/-- What has been settled so far. -/
structure Draft where
  mainClass : Option String := none
  classPath : Option String := none
  jvmArguments : List String := []
  java : Option String := none
  attach : Option Endpoint := none
  timeout : Option UInt64 := none
  programArguments : List String := []
  deriving DecidableEq, Repr

/-- An option whose value has not been judged. -/
inductive Open where
  | nothing
  /-- The next argument may be the value. -/
  | wanting (setting : Setting)
  | holding (setting : Setting) (value : String)
  deriving DecidableEq, Repr

/-! ## Values -/

/-- What is wrong with digits, from left to right: a character that is none, or a number
that has become too large. -/
def digitsFault (bound value : Nat) : List Char -> Option String
  | [] => none
  | c :: rest =>
      match Text.Numeral.digit? c with
      | none => some "invalid digit found in string"
      | some digit =>
          if bound < value * 10 + digit then some "number too large to fit in target type"
          else digitsFault bound (value * 10 + digit) rest

/-- What is wrong with a numeral. -/
def numeralFault (bound : Nat) (text : String) : Option String :=
  match text.toList with
  | [] => some "cannot parse integer from empty string"
  | ['+'] => some "invalid digit found in string"
  | '+' :: rest => digitsFault bound 0 rest
  | chars => digitsFault bound 0 chars

/-- The greatest time limit. -/
def maxTimeout : Nat := UInt64.size - 1

namespace Draft

/-- Whether an option that may be given only once has been given. -/
def has (draft : Draft) : Setting -> Bool
  | .classPath => draft.classPath.isSome
  | .jvmArgument => false
  | .java => draft.java.isSome
  | .attach => draft.attach.isSome
  | .timeout => draft.timeout.isSome

/-- Settle an option. -/
def assign (draft : Draft) (setting : Setting) (value : String) : Except Refusal Draft :=
  if draft.has setting then .error (.repeated setting)
  else match setting with
    | .classPath => .ok { draft with classPath := some value }
    | .jvmArgument => .ok { draft with jvmArguments := draft.jvmArguments ++ [value] }
    | .java =>
        if value.isEmpty then .error (.missingValue setting)
        else .ok { draft with java := some value }
    | .attach =>
        match Endpoint.parse value with
        | .ok endpoint => .ok { draft with attach := some endpoint }
        | .error reason => .error (.badValue setting value reason)
    | .timeout =>
        match numeralFault maxTimeout value with
        | some reason => .error (.badValue setting value reason)
        | none =>
            let limit := (Text.Numeral.natural? maxTimeout value).getD 0
            .ok { draft with timeout := some (UInt64.ofNat limit) }

/-- Judge what is open. -/
def settle (draft : Draft) : Open -> Except Refusal Draft
  | .nothing => .ok draft
  | .wanting setting => .error (.missingValue setting)
  | .holding setting value => draft.assign setting value

end Draft

/-! ## Arguments -/

/-- What an argument is, by its looks. -/
inductive Argument where
  | separator
  | long (name : String) (value : Option String)
  | short (letter : Char) (rest : List Char)
  | plain
  deriving DecidableEq, Repr

/-- What stands before and after the first equals sign. -/
def splitEquals : List Char -> List Char × Option (List Char)
  | [] => ([], none)
  | c :: rest =>
      if c = '=' then ([], some rest)
      else
        let (before, after) := splitEquals rest
        (c :: before, after)

/-- Tell an argument by its looks.  A single dash is nothing special. -/
def Argument.of (text : String) : Argument :=
  match text.toList with
  | ['-', '-'] => .separator
  | '-' :: '-' :: rest =>
      let (name, value) := splitEquals rest
      .long (String.ofList name) (value.map String.ofList)
  | '-' :: letter :: rest => .short letter rest
  | _ => .plain

/-- The value that is attached to an option of one letter.  An equals sign may stand
between them. -/
def attachedValue : List Char -> Option String
  | [] => none
  | '=' :: rest => some (String.ofList rest)
  | rest => some (String.ofList rest)

/-- An option with the value attached to it, if there is one. -/
def takeOption (draft : Draft) (held : Open) (setting : Setting) (value : Option String) :
    Except Refusal (Draft × Open) := do
  let draft ← draft.settle held
  match value with
  | some value => return (← draft.assign setting value, .nothing)
  | none => return (draft, .wanting setting)

/-- A question.  It is answered only if everything before it is in order. -/
def takeQuestion (draft : Draft) (held : Open) (question : Question) :
    Except Refusal (Draft × Open) := do
  let _ ← draft.settle held
  .error (.asked question)

/-- An argument that is no option: the value of the option before it, or else the name
of the class to debug, of which there can only be one. -/
def takePlain (draft : Draft) (held : Open) (text : String) :
    Except Refusal (Draft × Open) := do
  match held with
  | .wanting setting => return (draft, .holding setting text)
  | held =>
      if draft.mainClass.isSome then .error (.unknownArgument text)
      else
        let draft ← draft.settle held
        return ({ draft with mainClass := some text }, .nothing)

/-- One argument before the two dashes. -/
def takeArgument (draft : Draft) (held : Open) (text : String) :
    Except Refusal (Draft × Open) :=
  match Argument.of text with
  | .long name value =>
      match Setting.ofName? name with
      | some setting => takeOption draft held setting value
      | none =>
          if name = "help" then question .help value
          else if name = "version" then question .version value
          else .error (.unknownArgument text)
  | .short letter rest =>
      if letter = 'c' then takeOption draft held .classPath (attachedValue rest)
      else if letter = 'h' then takeQuestion draft held .help
      else if letter = 'V' then takeQuestion draft held .version
      else .error (.unknownArgument text)
  | .plain | .separator => takePlain draft held text
where
  /-- A question by its long name takes no value. -/
  question (question : Question) : Option String -> Except Refusal (Draft × Open)
    | some value => .error (.needlessValue question value)
    | none => takeQuestion draft held question

/-- Whether the next argument is a value whatever it looks like. -/
def Open.takesAnything : Open -> Bool
  | .wanting setting => setting.takesAnything
  | _ => false

/-- Read arguments in order. -/
def takeAll (draft : Draft) (held : Open) : List String -> Except Refusal Draft
  | [] => draft.settle held
  | text :: others =>
      if held.takesAnything then do
        let (draft, held) ← takePlain draft held text
        takeAll draft held others
      else if Argument.of text = .separator then do
        let draft ← draft.settle held
        return { draft with programArguments := others }
      else do
        let (draft, held) ← takeArgument draft held text
        takeAll draft held others

/-- Fill in what was left open: the launcher from the environment, then defaults.  The
class to debug has no default. -/
def Draft.complete (draft : Draft) (environment : Option String) :
    Except Refusal Options := do
  let draft ← match draft.java, environment with
    | none, some java => draft.assign .java java
    | _, _ => pure draft
  match draft.mainClass with
  | none => .error .missingMainClass
  | some mainClass => return {
      mainClass
      classPath := draft.classPath
      jvmArguments := draft.jvmArguments
      java := draft.java.getD "java"
      attach := draft.attach
      timeout := draft.timeout.getD 10000
      programArguments := draft.programArguments }

/-- What a command line says.  The environment may name the launcher. -/
def Options.parse (arguments : List String) (environment : Option String) :
    Except Refusal Options := do
  (← takeAll {} .nothing arguments).complete environment

/-! ## The launched machine -/

namespace Options

/-- The option that has a machine wait for the debugger on a port. -/
def agentOption (port : UInt16) : String :=
  "-agentlib:jdwp=transport=dt_socket,server=y,suspend=y,address=127.0.0.1:"
    ++ toString port.toNat

/-- The arguments that a machine is launched with.  All of its options stand before the
class, and the program's arguments after it. -/
def jvmCommand (options : Options) (port : UInt16) : List String :=
  agentOption port :: (match options.classPath with
    | some path => ["-cp", path]
    | none => [])
    ++ options.jvmArguments ++ options.mainClass :: options.programArguments

end Options
end CommandLine
end LineDebugger
