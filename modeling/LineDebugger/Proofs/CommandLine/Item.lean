import LineDebugger.CommandLine.Options

namespace LineDebugger
namespace CommandLine

/-!
# What a command line is made of

A command line is a sequence of items, and then perhaps two dashes with the arguments of the
program behind them.  An item is an option with its value or the name of the class, and it is
written with one argument or with two.  The reader accepts a command line if it can be taken apart
in this way and the items do not contradict one another, and only then.

The reader goes through the arguments once, with at most one option whose value it has not judged.
What such an option will settle is counted among the items that are still to come, so that the
reader is described by the same sequence of items wherever it stands.
-/

/-! ## The looks of an argument -/

theorem splitEquals_of_not_mem {chars : List Char} (absent : '=' ∉ chars) :
    splitEquals chars = (chars, none) := by
  induction chars with
  | nil => rfl
  | cons c rest inductionHypothesis =>
      rw [List.mem_cons, not_or] at absent
      rw [splitEquals, if_neg (Ne.symm absent.1), inductionHypothesis absent.2]

/-- A text is parted at its first equals sign. -/
theorem splitEquals_append {before : List Char} (after : List Char) (absent : '=' ∉ before) :
    splitEquals (before ++ '=' :: after) = (before, some after) := by
  induction before with
  | nil => rw [List.nil_append, splitEquals, if_pos rfl]
  | cons c rest inductionHypothesis =>
      rw [List.mem_cons, not_or] at absent
      rw [List.cons_append, splitEquals, if_neg (Ne.symm absent.1), inductionHypothesis absent.2]

/-- The argument does not begin with a dash, or it is nothing but one. -/
def Bare (text : String) : Prop := text = "-" ∨ text.toList.head? ≠ some '-'

/-- How an argument is written that has these looks. -/
inductive Looks (text : String) : Argument -> Prop where
  | separator : text = "--" -> Looks text .separator
  | long {name : String} : text = "--" ++ name -> name ≠ "" -> '=' ∉ name.toList ->
      Looks text (.long name none)
  | assigned {name value : String} : text = "--" ++ name ++ "=" ++ value -> '=' ∉ name.toList ->
      Looks text (.long name (some value))
  | short {letter : Char} {rest : List Char} : text.toList = '-' :: letter :: rest ->
      letter ≠ '-' -> Looks text (.short letter rest)
  | plain : Bare text -> Looks text .plain

namespace Argument

theorem of_separator : Argument.of "--" = .separator := by
  rfl

theorem of_long {text : String} {chars : List Char} (dashes : text.toList = '-' :: '-' :: chars)
    (named : chars ≠ []) :
    Argument.of text = .long (String.ofList (splitEquals chars).1)
      ((splitEquals chars).2.map String.ofList) := by
  rw [Argument.of, dashes]
  cases chars with
  | nil => exact absurd rfl named
  | cons c rest => rfl

theorem of_short {text : String} {letter : Char} {rest : List Char}
    (dash : text.toList = '-' :: letter :: rest) (other : letter ≠ '-') :
    Argument.of text = .short letter rest := by
  rw [Argument.of, dash]
  split
  · next same => cases same; exact absurd rfl other
  · next same => cases same; exact absurd rfl other
  · next same => cases same; rfl
  · next none => exact absurd rfl (none letter rest)

theorem of_plain {text : String} (bare : Bare text) : Argument.of text = .plain := by
  rcases bare with rfl | other
  · rfl
  · rw [Argument.of]
    split
    · next same => rw [same] at other; exact absurd rfl other
    · next same => rw [same] at other; exact absurd rfl other
    · next same => rw [same] at other; exact absurd rfl other
    · rfl

/-- Two dashes with a name behind them, and perhaps a value. -/
theorem looks_dashes {text : String} {chars : List Char}
    (dashes : text.toList = '-' :: '-' :: chars) (named : chars ≠ []) :
    Looks text (Argument.of text) := by
  rw [of_long dashes named]
  by_cases equals : '=' ∈ chars
  · obtain ⟨before, after, rfl, absent⟩ := List.eq_append_cons_of_mem equals
    rw [splitEquals_append after absent]
    refine .assigned (String.toList_inj.mp ?_) (by rwa [String.toList_ofList])
    rw [dashes]
    simp
  · rw [splitEquals_of_not_mem equals]
    refine .long (String.toList_inj.mp ?_) ?_ (by rwa [String.toList_ofList])
    · rw [dashes]
      simp
    · intro none
      apply named
      simpa using congrArg String.toList none

/-- Every argument has the looks that it is told by. -/
theorem looks_of (text : String) : Looks text (Argument.of text) := by
  have bare (plain : Bare text) : Looks text (Argument.of text) := of_plain plain ▸ .plain plain
  cases chars : text.toList with
  | nil => exact bare (.inr (by rw [chars]; nofun))
  | cons first rest =>
      by_cases dash : first = '-'
      · subst dash
        cases rest with
        | nil => exact bare (.inl (String.toList_inj.mp chars))
        | cons letter later =>
            by_cases second : letter = '-'
            · subst second
              cases later with
              | nil =>
                  have separator : text = "--" := String.toList_inj.mp chars
                  rw [separator, of_separator]
                  exact .separator rfl
              | cons c others => exact looks_dashes chars (List.cons_ne_nil c others)
            · exact of_short chars second ▸ .short chars second
      · refine bare (.inr ?_)
        rw [chars]
        exact fun same => dash (Option.some.inj same)

/-- An argument is told by its looks. -/
theorem of_eq_iff {text : String} {argument : Argument} :
    Argument.of text = argument ↔ Looks text argument := by
  constructor
  · rintro rfl
    exact looks_of text
  · intro looks
    cases looks with
    | separator same => rw [same, of_separator]
    | @long name same named absent =>
        have dashes : text.toList = '-' :: '-' :: name.toList := by
          rw [same]
          simp
        have some : name.toList ≠ [] := fun none => named (String.toList_inj.mp none)
        rw [of_long dashes some, splitEquals_of_not_mem absent, String.ofList_toList]
        rfl
    | @assigned name value same absent =>
        have dashes : text.toList = '-' :: '-' :: (name.toList ++ '=' :: value.toList) := by
          rw [same]
          simp
        rw [of_long dashes (by simp), splitEquals_append _ absent, String.ofList_toList,
          Option.map_some, String.ofList_toList]
    | short dash other => exact of_short dash other
    | plain bare => exact of_plain bare

end Argument

/-! ## Items -/

/-- What a command line settles with one or two arguments. -/
inductive Item where
  | option (setting : Setting) (value : String)
  | mainClass (name : String)
  deriving DecidableEq, Repr

/-- The arguments that are an item by themselves. -/
inductive Item.Alone : Item -> String -> Prop where
  | assigned (setting : Setting) (value : String) :
      Alone (.option setting value) ("--" ++ setting.name ++ "=" ++ value)
  | letterAssigned (value : String) : Alone (.option .classPath value) ("-c=" ++ value)
  | letterJoined {value : String} : value ≠ "" -> value.toList.head? ≠ some '=' ->
      Alone (.option .classPath value) ("-c" ++ value)
  | mainClass {name : String} : Bare name -> Alone (.mainClass name) name

/-- The arguments that name an option and leave its value to the next argument. -/
inductive Setting.Opened : Setting -> String -> Prop where
  | long (setting : Setting) : Opened setting ("--" ++ setting.name)
  | letter : Opened .classPath "-c"

/-- Whether an argument can be the value of the option in front of it. -/
def Setting.Takes (setting : Setting) (value : String) : Prop :=
  setting.takesAnything = true ∨ Bare value

/-- The arguments with which an item is written. -/
inductive Item.Written : Item -> List String -> Prop where
  | alone {item : Item} {text : String} : item.Alone text -> Written item [text]
  | pair {setting : Setting} {text value : String} : setting.Opened text -> setting.Takes value ->
      Written (.option setting value) [text, value]

/-- The arguments with which items are written, one after the other. -/
inductive Spelled : List String -> List Item -> Prop where
  | nil : Spelled [] []
  | cons {item : Item} {items : List Item} {front others : List String} : item.Written front ->
      Spelled others items -> Spelled (front ++ others) (item :: items)

/-- Settle an item. -/
def Draft.accept (draft : Draft) : Item -> Except Refusal Draft
  | .option setting value => draft.assign setting value
  | .mainClass name =>
      if draft.mainClass.isSome then .error (.unknownArgument name)
      else .ok { draft with mainClass := some name }

/-- Settle items in order. -/
def Draft.acceptAll (draft : Draft) (items : List Item) : Except Refusal Draft :=
  items.foldlM Draft.accept draft

end CommandLine
end LineDebugger
