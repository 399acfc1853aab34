import LineDebugger.Proofs.CommandLine.Reading

namespace LineDebugger
namespace CommandLine

/-!
# The program's arguments are kept apart

What stands behind two dashes is handed to the debugged program as it stands.  It neither changes
what the arguments in front of it settle nor reaches the virtual machine as one of its options,
whatever it looks like.

The options of the machine are read off the items of the command line: first the agent, then the
class path, then the further options in the order in which they were given, and last the class.
-/

variable {draft next final base : Draft} {item : Item} {items later : List Item}

/-! ## What items settle -/

/-- The value that an item gives to an option. -/
def Item.valueOf? (setting : Setting) : Item -> Option String
  | .option other value => if other = setting then some value else none
  | .mainClass _ => none

/-- The class that an item names. -/
def Item.className? : Item -> Option String
  | .option _ _ => none
  | .mainClass name => some name

/-- The values that items give to an option, in order. -/
def valuesOf (setting : Setting) (items : List Item) : List String :=
  items.filterMap (Item.valueOf? setting)

/-- The classes that items name. -/
def classNames (items : List Item) : List String :=
  items.filterMap Item.className?

theorem valuesOf_append (setting : Setting) (items later : List Item) :
    valuesOf setting (items ++ later) = valuesOf setting items ++ valuesOf setting later :=
  List.filterMap_append

theorem classNames_append (items later : List Item) :
    classNames (items ++ later) = classNames items ++ classNames later :=
  List.filterMap_append

/-- What items add to what the machine is launched with. -/
structure Draft.Gains (draft : Draft) (items : List Item) (next : Draft) : Prop where
  mainClass : next.mainClass.toList = draft.mainClass.toList ++ classNames items
  classPath : next.classPath.toList = draft.classPath.toList ++ valuesOf .classPath items
  jvmArguments : next.jvmArguments = draft.jvmArguments ++ valuesOf .jvmArgument items
  programArguments : next.programArguments = draft.programArguments

namespace Draft

theorem Gains.refl (draft : Draft) : draft.Gains [] draft where
  mainClass := (List.append_nil _).symm
  classPath := (List.append_nil _).symm
  jvmArguments := (List.append_nil _).symm
  programArguments := rfl

theorem Gains.trans (first : draft.Gains items next) (second : next.Gains later final) :
    draft.Gains (items ++ later) final where
  mainClass := by
    rw [second.mainClass, first.mainClass, classNames_append, List.append_assoc]
  classPath := by
    rw [second.classPath, first.classPath, valuesOf_append, List.append_assoc]
  jvmArguments := by
    rw [second.jvmArguments, first.jvmArguments, valuesOf_append, List.append_assoc]
  programArguments := second.programArguments.trans first.programArguments

/-- One item adds its own value and nothing else. -/
theorem gains_of_accept (accepted : draft.accept item = .ok next) : draft.Gains [item] next := by
  cases item with
  | mainClass name =>
      obtain ⟨free, rfl⟩ := accept_mainClass_eq_ok_iff.mp accepted
      constructor <;> simp [free, classNames, valuesOf, Item.className?, Item.valueOf?]
  | option setting value =>
      cases assigns_of accepted with
      | classPath free =>
          constructor <;> simp [free, classNames, valuesOf, Item.className?, Item.valueOf?]
      | jvmArgument | java | attach | timeout =>
          constructor <;> simp [classNames, valuesOf, Item.className?, Item.valueOf?]

theorem gains_of_acceptAll (accepted : draft.acceptAll items = .ok base) :
    draft.Gains items base := by
  induction items generalizing draft with
  | nil =>
      cases accepted
      exact .refl base
  | cons item items inductionHypothesis =>
      obtain ⟨next, first, others⟩ := acceptAll_cons_eq_ok_iff.mp accepted
      exact (gains_of_accept first).trans (inductionHypothesis others)

end Draft

/-! ## What is left open -/

/-- The launcher, when the command line and the environment may each name one. -/
def launcher : Option String -> Option String -> Except Refusal String
  | some java, _ => .ok java
  | none, some java => if java.isEmpty then .error (.missingValue .java) else .ok java
  | none, none => .ok "java"

/-- What a draft says with this launcher and this class. -/
def Draft.options (draft : Draft) (java mainClass : String) : Options where
  mainClass := mainClass
  classPath := draft.classPath
  jvmArguments := draft.jvmArguments
  java := java
  attach := draft.attach
  timeout := draft.timeout.getD 10000
  programArguments := draft.programArguments

theorem Draft.complete_eq (draft : Draft) (environment : Option String) :
    draft.complete environment = launcher draft.java environment >>= fun java =>
      match draft.mainClass with
      | none => .error .missingMainClass
      | some mainClass => .ok (draft.options java mainClass) := by
  rcases draft with ⟨mainClass, classPath, jvmArguments, java, attach, timeout, programArguments⟩
  cases java with
  | some java => rfl
  | none =>
      cases environment with
      | none => rfl
      | some java =>
          cases empty : java.isEmpty with
          | true => simp [complete, launcher, assign, has, empty]; rfl
          | false => simp [complete, launcher, assign, has, empty]; rfl

/-- Only the launcher and the class can be missing at the end. -/
theorem Draft.complete_eq_ok_iff {environment : Option String} {options : Options} :
    draft.complete environment = .ok options ↔ exists java mainClass,
      launcher draft.java environment = .ok java ∧ draft.mainClass = some mainClass ∧
        draft.options java mainClass = options := by
  rw [complete_eq, bind_eq_ok_iff]
  cases named : draft.mainClass with
  | none => simp
  | some mainClass => simp

/-! ## Two command lines that differ behind the dashes -/

/-- The arguments of the machine that are options of its own. -/
def machineOptions (port : UInt16) (items : List Item) : List String :=
  Options.agentOption port ::
    ((valuesOf .classPath items).flatMap fun path => ["-cp", path]) ++ valuesOf .jvmArgument items

variable {arguments : List String} {environment : Option String} {options : Options}

/-- A command line without two dashes is all items. -/
theorem parse_eq_ok_iff (whole : "--" ∉ arguments) :
    Options.parse arguments environment = .ok options ↔ exists items base,
      Spelled arguments items ∧ Draft.acceptAll {} items = .ok base ∧
        base.complete environment = .ok options := by
  rw [Options.parse, bind_eq_ok_iff]
  constructor
  · rintro ⟨final, taken, completed⟩
    obtain ⟨front, items, behind, base, rfl, spelled, accepted, ends⟩ := takeAll_eq_ok_iff.mp taken
    cases ends with
    | bare =>
        rw [List.append_nil]
        exact ⟨items, final, spelled, accepted, completed⟩
    | separated rest => exact absurd (List.mem_append_right front List.mem_cons_self) whole
  · rintro ⟨items, base, spelled, accepted, completed⟩
    refine ⟨base, takeAll_eq_ok_iff.mpr ?_, completed⟩
    exact ⟨arguments, items, [], base, (List.append_nil _).symm, spelled, accepted, .bare⟩

/-- Behind two dashes, anything may follow items. -/
theorem parse_separated (spelled : Spelled arguments items)
    (accepted : Draft.acceptAll {} items = .ok base)
    (completed : base.complete environment = .ok options) (rest : List String) :
    Options.parse (arguments ++ "--" :: rest) environment =
      .ok { options with programArguments := rest } := by
  obtain ⟨java, mainClass, launched, named, rfl⟩ := Draft.complete_eq_ok_iff.mp completed
  rw [Options.parse, bind_eq_ok_iff]
  refine ⟨{ base with programArguments := rest }, takeAll_eq_ok_iff.mpr ?_, ?_⟩
  · exact ⟨arguments, items, "--" :: rest, base, rfl, spelled, accepted, .separated rest⟩
  · exact Draft.complete_eq_ok_iff.mpr ⟨java, mainClass, launched, named, rfl⟩

/-- The machine is launched with its options, the class, and nothing behind it. -/
theorem jvmCommand_of_items (accepted : Draft.acceptAll {} items = .ok base)
    (completed : base.complete environment = .ok options) (port : UInt16) :
    options.jvmCommand port = machineOptions port items ++ [options.mainClass] := by
  obtain ⟨java, mainClass, _, _, rfl⟩ := Draft.complete_eq_ok_iff.mp completed
  have gains := Draft.gains_of_acceptAll accepted
  have path : valuesOf .classPath items = base.classPath.toList := gains.classPath.symm
  have further : valuesOf .jvmArgument items = base.jvmArguments := gains.jvmArguments.symm
  have none : base.programArguments = [] := gains.programArguments
  rw [machineOptions, path, further, Options.jvmCommand]
  cases named : base.classPath <;> simp [Draft.options, named, none]

theorem jvmCommand_with (options : Options) (port : UInt16) (rest : List String)
    (none : options.programArguments = []) :
    ({ options with programArguments := rest } : Options).jvmCommand port =
      options.jvmCommand port ++ rest := by
  simp [Options.jvmCommand, none]

/-- Program arguments act neither as options of the debugger nor as options of the machine.  With
two dashes and any texts behind them, a command line without two dashes is read as it was, and the
texts are the program's arguments.  The machine is launched as it was, with the texts behind the
class, and all of its options are in front of the class: the agent, the class path, and the further
options in the order of the command line. -/
theorem program_arguments_stay_apart (whole : "--" ∉ arguments)
    (parsed : Options.parse arguments environment = .ok options) :
    exists items, Spelled arguments items ∧ classNames items = [options.mainClass] ∧
      valuesOf .classPath items = options.classPath.toList ∧
      valuesOf .jvmArgument items = options.jvmArguments ∧
      forall rest : List String,
        Options.parse (arguments ++ "--" :: rest) environment =
            .ok { options with programArguments := rest } ∧
          forall port, options.jvmCommand port = machineOptions port items ++ [options.mainClass] ∧
            ({ options with programArguments := rest } : Options).jvmCommand port =
              options.jvmCommand port ++ rest := by
  obtain ⟨items, base, spelled, accepted, completed⟩ := (parse_eq_ok_iff whole).mp parsed
  have gains := Draft.gains_of_acceptAll accepted
  have conclusion (rest : List String) := parse_separated spelled accepted completed rest
  have launched (port : UInt16) := jvmCommand_of_items accepted completed port
  obtain ⟨java, mainClass, _, named, rfl⟩ := Draft.complete_eq_ok_iff.mp completed
  refine ⟨items, spelled, ?_, gains.classPath.symm, gains.jvmArguments.symm, fun rest => ?_⟩
  · exact gains.mainClass.symm.trans (congrArg Option.toList named)
  · exact ⟨conclusion rest, fun port =>
      ⟨launched port, jvmCommand_with _ port rest gains.programArguments⟩⟩

/-- A further option may look like anything, and so may the program's arguments. -/
theorem looks_of_options_stay_apart :
    "--" ∉ ["--jvm-arg", "--help", "-c=out", "--jvm-arg=-ea", "Calc"] ∧
      Options.parse ["--jvm-arg", "--help", "-c=out", "--jvm-arg=-ea", "Calc"] (some "/opt/java") =
        .ok {
          mainClass := "Calc"
          classPath := some "out"
          jvmArguments := ["--help", "-ea"]
          java := "/opt/java" } ∧
      Options.parse ["--jvm-arg", "--help", "-c=out", "--jvm-arg=-ea", "Calc",
          "--", "--help", "--attach", "--", "-c"] (some "/opt/java") =
        .ok {
          mainClass := "Calc"
          classPath := some "out"
          jvmArguments := ["--help", "-ea"]
          java := "/opt/java"
          programArguments := ["--help", "--attach", "--", "-c"] } := by
  have whole : "--" ∉ ["--jvm-arg", "--help", "-c=out", "--jvm-arg=-ea", "Calc"] := by decide
  have parsed : Options.parse ["--jvm-arg", "--help", "-c=out", "--jvm-arg=-ea", "Calc"]
      (some "/opt/java") = .ok {
        mainClass := "Calc"
        classPath := some "out"
        jvmArguments := ["--help", "-ea"]
        java := "/opt/java" } := by
    rfl
  obtain ⟨_, _, _, _, _, apart⟩ := program_arguments_stay_apart whole parsed
  exact ⟨whole, parsed, (apart ["--help", "--attach", "--", "-c"]).1⟩

end CommandLine
end LineDebugger
