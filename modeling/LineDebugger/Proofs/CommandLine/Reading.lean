import LineDebugger.Proofs.CommandLine.Item

namespace LineDebugger
namespace CommandLine

/-!
# Reading a command line

One step of the reader settles what was open before, or begins an option, or finds the value of one.
From the steps it follows that a whole command line is read exactly when its arguments are items
whose settlements all succeed, up to two dashes that no option has taken for its value.
-/

variable {draft next final base : Draft} {held opened : Open} {text value name : String}
  {setting : Setting}

/-! ## Composed computations -/

theorem bind_eq_ok_iff {α β : Type} {step : Except Refusal α} {continuation : α -> Except Refusal β}
    {answer : β} : step >>= continuation = .ok answer ↔
      exists result, step = .ok result ∧ continuation result = .ok answer := by
  cases step with
  | error refusal => exact ⟨nofun, nofun⟩
  | ok result => exact ⟨fun came => ⟨result, rfl, came⟩, fun ⟨_, rfl, came⟩ => came⟩

/-! ## Names and values -/

namespace Setting

theorem ofName?_name (setting : Setting) : ofName? setting.name = some setting := by
  cases setting <;> rfl

theorem ofName?_eq_some_iff : ofName? name = some setting ↔ name = setting.name := by
  constructor
  · intro named
    have same := List.find?_some named
    exact (eq_of_beq same).symm
  · rintro rfl
    exact ofName?_name setting

theorem name_ne_empty (setting : Setting) : setting.name ≠ "" := by
  cases setting <;> decide

theorem equals_not_mem_name (setting : Setting) : '=' ∉ setting.name.toList := by
  cases setting <;> decide

end Setting

theorem attachedValue_cons {c : Char} (rest : List Char) (other : c ≠ '=') :
    attachedValue (c :: rest) = some (String.ofList (c :: rest)) := by
  rw [attachedValue]
  · rintro ⟨⟩
  · rintro tail ⟨⟩
    exact other rfl

theorem attachedValue_eq_none_iff {rest : List Char} : attachedValue rest = none ↔ rest = [] := by
  cases rest with
  | nil => exact ⟨fun _ => rfl, fun _ => rfl⟩
  | cons c rest =>
      by_cases equals : c = '='
      · subst equals
        exact ⟨nofun, nofun⟩
      · rw [attachedValue_cons rest equals]
        exact ⟨nofun, nofun⟩

/-- A value is attached with an equals sign or without one. -/
theorem attachedValue_eq_some_iff {rest : List Char} : attachedValue rest = some value ↔
    rest = '=' :: value.toList ∨
      rest = value.toList ∧ value ≠ "" ∧ value.toList.head? ≠ some '=' := by
  constructor
  · intro attached
    cases rest with
    | nil => cases attached
    | cons c rest =>
        by_cases equals : c = '='
        · subst equals
          cases attached
          exact .inl (by rw [String.toList_ofList])
        · rw [attachedValue_cons rest equals] at attached
          cases attached
          refine .inr ⟨String.toList_ofList.symm, ?_, ?_⟩
          · intro empty
            simpa using congrArg String.toList empty
          · rw [String.toList_ofList]
            exact fun same => equals (Option.some.inj same)
  · rintro (rfl | ⟨rfl, some, other⟩)
    · rw [attachedValue, String.ofList_toList]
    · cases chars : value.toList with
      | nil => exact absurd (String.toList_inj.mp chars) some
      | cons c rest =>
          rw [chars] at other
          rw [attachedValue_cons rest fun same => other (congrArg _ same), ← chars,
            String.ofList_toList]

/-! ## What settling changes -/

/-- What settling an option changes. -/
inductive Draft.Assigns (draft : Draft) : Setting -> String -> Draft -> Prop where
  | classPath {value : String} : draft.classPath = none ->
      Assigns draft .classPath value { draft with classPath := some value }
  | jvmArgument (value : String) :
      Assigns draft .jvmArgument value { draft with jvmArguments := draft.jvmArguments ++ [value] }
  | java {value : String} : draft.java = none -> value.isEmpty = false ->
      Assigns draft .java value { draft with java := some value }
  | attach {value : String} {endpoint : Endpoint} : draft.attach = none ->
      Endpoint.parse value = .ok endpoint ->
      Assigns draft .attach value { draft with attach := some endpoint }
  | timeout {value : String} {limit : UInt64} : draft.timeout = none ->
      numeralFault maxTimeout value = none ->
      limit = UInt64.ofNat ((Text.Numeral.natural? maxTimeout value).getD 0) ->
      Assigns draft .timeout value { draft with timeout := some limit }

theorem Draft.assigns_of (assigned : draft.assign setting value = .ok next) :
    draft.Assigns setting value next := by
  rw [assign.eq_def] at assigned
  by_cases given : draft.has setting = true
  · rw [if_pos given] at assigned
    cases assigned
  rw [if_neg given] at assigned
  cases setting with
  | classPath =>
      cases assigned
      exact .classPath (Option.not_isSome_iff_eq_none.mp given)
  | jvmArgument =>
      cases assigned
      exact .jvmArgument value
  | java =>
      cases empty : value.isEmpty with
      | true => simp [empty] at assigned
      | false =>
          simp only [empty] at assigned
          cases assigned
          exact .java (Option.not_isSome_iff_eq_none.mp given) empty
  | attach =>
      cases parsed : Endpoint.parse value with
      | error reason => simp [parsed] at assigned
      | ok endpoint =>
          simp only [parsed] at assigned
          cases assigned
          exact .attach (Option.not_isSome_iff_eq_none.mp given) parsed
  | timeout =>
      cases fault : numeralFault maxTimeout value with
      | some reason => simp [fault] at assigned
      | none =>
          simp only [fault] at assigned
          cases assigned
          exact .timeout (Option.not_isSome_iff_eq_none.mp given) fault rfl

theorem Draft.accept_mainClass_eq_ok_iff : draft.accept (.mainClass name) = .ok next ↔
    draft.mainClass = none ∧ { draft with mainClass := some name } = next := by
  rw [accept]
  cases draft.mainClass with
  | none => exact ⟨fun named => ⟨rfl, Except.ok.inj named⟩, fun ⟨_, named⟩ => named ▸ rfl⟩
  | some other => exact ⟨nofun, nofun⟩

/-- Judging what is open leaves the name of the class as it is. -/
theorem Draft.mainClass_of_settle (settled : draft.settle held = .ok next) :
    next.mainClass = draft.mainClass := by
  cases held with
  | nothing => cases settled; rfl
  | wanting setting => cases settled
  | holding setting value => cases assigns_of settled <;> rfl

theorem Draft.settle_ne_wanting (settled : draft.settle held = .ok next) :
    held ≠ .wanting setting := by
  rintro rfl
  cases settled

/-! ## Steps -/

/-- What an argument can do to a reader that does not refuse it. -/
inductive Taken (draft : Draft) (text : String) : Open -> Draft -> Open -> Prop where
  /-- It is the value of the option in front of it. -/
  | value {setting : Setting} : Bare text ->
      Taken draft text (.wanting setting) draft (.holding setting text)
  /-- It is an item by itself. -/
  | alone {held : Open} {item : Item} {settled next : Draft} : item.Alone text ->
      draft.settle held = .ok settled -> settled.accept item = .ok next ->
      Taken draft text held next .nothing
  /-- It names an option and leaves the value to the next argument. -/
  | opened {held : Open} {setting : Setting} {settled : Draft} : setting.Opened text ->
      draft.settle held = .ok settled -> Taken draft text held settled (.wanting setting)

theorem takeOption_some_eq_ok_iff :
    takeOption draft held setting (some value) = .ok (next, opened) ↔
      exists settled, draft.settle held = .ok settled ∧ settled.assign setting value = .ok next ∧
        opened = .nothing := by
  simp only [takeOption, bind_eq_ok_iff]
  constructor
  · rintro ⟨settled, judged, _, assigned, ⟨⟩⟩
    exact ⟨settled, judged, assigned, rfl⟩
  · rintro ⟨settled, judged, assigned, rfl⟩
    exact ⟨settled, judged, next, assigned, rfl⟩

theorem takeOption_none_eq_ok_iff : takeOption draft held setting none = .ok (next, opened) ↔
    draft.settle held = .ok next ∧ opened = .wanting setting := by
  simp only [takeOption, bind_eq_ok_iff]
  constructor
  · rintro ⟨settled, judged, ⟨⟩⟩
    exact ⟨judged, rfl⟩
  · rintro ⟨judged, rfl⟩
    exact ⟨next, judged, rfl⟩

theorem takeQuestion_ne_ok {question : Question} :
    takeQuestion draft held question ≠ .ok (next, opened) := by
  intro answered
  simp only [takeQuestion, bind_eq_ok_iff] at answered
  obtain ⟨_, _, ⟨⟩⟩ := answered

theorem takePlain_wanting :
    takePlain draft (.wanting setting) text = .ok (draft, .holding setting text) :=
  rfl

/-- Without an option that wants a value, a bare argument names the class. -/
theorem takePlain_eq_ok_iff (free : forall setting, held ≠ .wanting setting) :
    takePlain draft held text = .ok (next, opened) ↔
      exists settled, draft.settle held = .ok settled ∧
        settled.accept (.mainClass text) = .ok next ∧ opened = .nothing := by
  have named : takePlain draft held text =
      if draft.mainClass.isSome then .error (.unknownArgument text)
      else do
        let draft ← draft.settle held
        return ({ draft with mainClass := some text }, .nothing) := by
    cases held with
    | nothing => rfl
    | wanting setting => exact absurd rfl (free setting)
    | holding setting value => rfl
  rw [named]
  constructor
  · intro taken
    by_cases given : draft.mainClass.isSome = true
    · rw [if_pos given] at taken
      cases taken
    · rw [if_neg given, bind_eq_ok_iff] at taken
      obtain ⟨settled, judged, ⟨⟩⟩ := taken
      refine ⟨settled, judged, Draft.accept_mainClass_eq_ok_iff.mpr ⟨?_, rfl⟩, rfl⟩
      rw [Draft.mainClass_of_settle judged]
      exact Option.not_isSome_iff_eq_none.mp given
  · rintro ⟨settled, judged, accepted, rfl⟩
    obtain ⟨free, rfl⟩ := Draft.accept_mainClass_eq_ok_iff.mp accepted
    rw [Draft.mainClass_of_settle judged] at free
    rw [if_neg (by rw [free]; nofun), judged]
    rfl

theorem takeArgument_opened (names : setting.Opened text) :
    takeArgument draft held text = takeOption draft held setting none := by
  cases names with
  | long =>
      rw [takeArgument, Argument.of_eq_iff.mpr
        (.long rfl setting.name_ne_empty setting.equals_not_mem_name)]
      simp only [Setting.ofName?_name]
  | letter => rfl

theorem Argument.of_letterAssigned (value : String) :
    Argument.of ("-c=" ++ value) = .short 'c' ('=' :: value.toList) :=
  of_short (by simp) (by decide)

theorem Argument.of_letterJoined (value : String) :
    Argument.of ("-c" ++ value) = .short 'c' value.toList :=
  of_short (by simp) (by decide)

theorem takeArgument_attached (alone : (Item.option setting value).Alone text) :
    takeArgument draft held text = takeOption draft held setting (some value) := by
  cases alone with
  | assigned =>
      rw [takeArgument, Argument.of_eq_iff.mpr (.assigned rfl setting.equals_not_mem_name)]
      simp only [Setting.ofName?_name]
  | letterAssigned =>
      rw [takeArgument, Argument.of_letterAssigned]
      simp only [if_pos, attachedValue_eq_some_iff.mpr (.inl rfl)]
  | letterJoined some other =>
      rw [takeArgument, Argument.of_letterJoined]
      simp only [if_pos, attachedValue_eq_some_iff.mpr (.inr ⟨rfl, some, other⟩)]

theorem takeArgument_bare (bare : Bare text) :
    takeArgument draft held text = takePlain draft held text := by
  rw [takeArgument, Argument.of_plain bare]

theorem question_ne_ok {question : Question} {value : Option String} :
    takeArgument.question draft held question value ≠ .ok (next, opened) := by
  cases value with
  | none => exact takeQuestion_ne_ok
  | some value => exact nofun

/-- A long name that no option has is refused or asks a question. -/
theorem takeArgument_unnamed {value : Option String} (long : Argument.of text = .long name value)
    (unnamed : Setting.ofName? name = none) :
    takeArgument draft held text ≠ .ok (next, opened) := by
  intro taken
  simp only [takeArgument, long, unnamed] at taken
  split at taken
  · exact question_ne_ok taken
  · split at taken
    · exact question_ne_ok taken
    · cases taken

theorem takeArgument_other_letter {letter : Char} {rest : List Char}
    (short : Argument.of text = .short letter rest) (other : letter ≠ 'c') :
    takeArgument draft held text ≠ .ok (next, opened) := by
  intro taken
  simp only [takeArgument, short, if_neg other] at taken
  split at taken
  · exact takeQuestion_ne_ok taken
  · split at taken
    · exact takeQuestion_ne_ok taken
    · cases taken

/-- What is written with the letter is the option or the option with its value. -/
theorem known_of_letter {rest : List Char} (same : text.toList = '-' :: 'c' :: rest) :
    (exists setting : Setting, setting.Opened text) ∨ exists item : Item, item.Alone text := by
  cases attached : attachedValue rest with
  | none =>
      rw [attachedValue_eq_none_iff.mp attached] at same
      have letter : text = "-c" := String.toList_inj.mp same
      exact .inl ⟨.classPath, letter ▸ .letter⟩
  | some value =>
      rcases attachedValue_eq_some_iff.mp attached with rfl | ⟨rfl, some, other⟩
      · have letter : text = "-c=" ++ value := String.toList_inj.mp (by simp [same])
        exact .inr ⟨.option .classPath value, letter ▸ .letterAssigned value⟩
      · have letter : text = "-c" ++ value := String.toList_inj.mp (by simp [same])
        exact .inr ⟨.option .classPath value, letter ▸ .letterJoined some other⟩

/-- Only what opens an option and what is an item by itself is not refused. -/
theorem known_of_taken (other : text ≠ "--")
    (taken : takeArgument draft held text = .ok (next, opened)) :
    (exists setting : Setting, setting.Opened text) ∨ exists item : Item, item.Alone text := by
  have looks := Argument.looks_of text
  generalize told : Argument.of text = argument at looks
  cases looks with
  | separator same => exact absurd same other
  | @long name same =>
      cases known : Setting.ofName? name with
      | none => exact absurd taken (takeArgument_unnamed told known)
      | some setting =>
          rw [same, Setting.ofName?_eq_some_iff.mp known]
          exact .inl ⟨setting, .long setting⟩
  | @assigned name value same =>
      cases known : Setting.ofName? name with
      | none => exact absurd taken (takeArgument_unnamed told known)
      | some setting =>
          rw [same, Setting.ofName?_eq_some_iff.mp known]
          exact .inr ⟨.option setting value, .assigned setting value⟩
  | @short letter rest same =>
      by_cases letterC : letter = 'c'
      · subst letterC
        exact known_of_letter same
      · exact absurd taken (takeArgument_other_letter told letterC)
  | plain bare => exact .inr ⟨.mainClass text, .mainClass bare⟩

/-- A step of the reader. -/
theorem takeArgument_eq_ok_iff (other : text ≠ "--") :
    takeArgument draft held text = .ok (next, opened) ↔ Taken draft text held next opened := by
  constructor
  · intro taken
    rcases known_of_taken other taken with ⟨setting, names⟩ | ⟨item, alone⟩
    · rw [takeArgument_opened names, takeOption_none_eq_ok_iff] at taken
      obtain ⟨judged, rfl⟩ := taken
      exact .opened names judged
    · cases item with
      | option setting value =>
          rw [takeArgument_attached alone, takeOption_some_eq_ok_iff] at taken
          obtain ⟨settled, judged, assigned, rfl⟩ := taken
          exact .alone alone judged assigned
      | mainClass name =>
          have bare : name = text ∧ Bare text := by
            cases alone with
            | mainClass bare => exact ⟨rfl, bare⟩
          obtain ⟨rfl, bare⟩ := bare
          rw [takeArgument_bare bare] at taken
          by_cases wants : exists setting, held = .wanting setting
          · obtain ⟨setting, rfl⟩ := wants
            rw [takePlain_wanting] at taken
            cases taken
            exact .value bare
          · rw [takePlain_eq_ok_iff (not_exists.mp wants)] at taken
            obtain ⟨settled, judged, accepted, rfl⟩ := taken
            exact .alone alone judged accepted
  · intro taken
    cases taken with
    | value bare => rw [takeArgument_bare bare, takePlain_wanting]
    | opened names judged =>
        rw [takeArgument_opened names]
        exact takeOption_none_eq_ok_iff.mpr ⟨judged, rfl⟩
    | @alone _ item settled _ alone judged accepted =>
        cases item with
        | option setting value =>
            rw [takeArgument_attached alone]
            exact takeOption_some_eq_ok_iff.mpr ⟨settled, judged, accepted, rfl⟩
        | mainClass name =>
            cases alone with
            | mainClass bare =>
                rw [takeArgument_bare bare]
                exact (takePlain_eq_ok_iff fun _ => Draft.settle_ne_wanting judged).mpr
                  ⟨settled, judged, accepted, rfl⟩

/-! ## Whole command lines -/

variable {items : List Item} {arguments front behind others : List String}

/-- The items that the arguments are, when an option may have begun in front of them. -/
inductive Open.Continues : Open -> List String -> List Item -> Prop where
  | nothing {arguments : List String} {items : List Item} : Spelled arguments items ->
      Continues .nothing arguments items
  | holding {setting : Setting} {value : String} {arguments : List String} {items : List Item} :
      Spelled arguments items ->
      Continues (.holding setting value) arguments (.option setting value :: items)
  | wanting {setting : Setting} {value : String} {arguments : List String} {items : List Item} :
      setting.Takes value -> Spelled arguments items ->
      Continues (.wanting setting) (value :: arguments) (.option setting value :: items)

/-- What stands behind the items: nothing, or two dashes with the program's arguments. -/
inductive Ends (base : Draft) : List String -> Draft -> Prop where
  | bare : Ends base [] base
  | separated (rest : List String) :
      Ends base ("--" :: rest) { base with programArguments := rest }

/-- From where the reader stands, the arguments are items that are settled in order. -/
def Reads (draft : Draft) (held : Open) (arguments : List String) (final : Draft) : Prop :=
  exists front items behind base, arguments = front ++ behind ∧ held.Continues front items ∧
    draft.acceptAll items = .ok base ∧ Ends base behind final

theorem Draft.acceptAll_cons_eq_ok_iff {item : Item} :
    draft.acceptAll (item :: items) = .ok base ↔
      exists next, draft.accept item = .ok next ∧ next.acceptAll items = .ok base := by
  rw [acceptAll, List.foldlM_cons, bind_eq_ok_iff]
  rfl

/-- What is open is judged as the first of the items. -/
theorem Reads.of_settled (settled : draft.settle held = .ok next)
    (reads : Reads next .nothing arguments final) : Reads draft held arguments final := by
  obtain ⟨front, items, behind, base, rfl, ⟨spelled⟩, accepted, ends⟩ := reads
  cases held with
  | nothing =>
      cases settled
      exact ⟨front, items, behind, base, rfl, .nothing spelled, accepted, ends⟩
  | wanting setting => cases settled
  | holding setting value =>
      exact ⟨front, .option setting value :: items, behind, base, rfl, .holding spelled,
        Draft.acceptAll_cons_eq_ok_iff.mpr ⟨next, settled, accepted⟩, ends⟩

/-- A value in the next argument is the value as it is held. -/
theorem Reads.of_value (takes : setting.Takes value)
    (reads : Reads draft (.holding setting value) arguments final) :
    Reads draft (.wanting setting) (value :: arguments) final := by
  obtain ⟨front, items, behind, base, rfl, continues, accepted, ends⟩ := reads
  cases continues with
  | holding spelled =>
      exact ⟨value :: front, _, behind, base, rfl, .wanting takes spelled, accepted, ends⟩

theorem Reads.of_alone {item : Item} (alone : item.Alone text)
    (accepted : draft.accept item = .ok next) (reads : Reads next .nothing arguments final) :
    Reads draft .nothing (text :: arguments) final := by
  obtain ⟨front, items, behind, base, rfl, ⟨spelled⟩, later, ends⟩ := reads
  exact ⟨text :: front, item :: items, behind, base, rfl, .nothing (.cons (.alone alone) spelled),
    Draft.acceptAll_cons_eq_ok_iff.mpr ⟨next, accepted, later⟩, ends⟩

theorem Reads.of_opened (names : setting.Opened text)
    (reads : Reads draft (.wanting setting) arguments final) :
    Reads draft .nothing (text :: arguments) final := by
  obtain ⟨front, items, behind, base, rfl, continues, accepted, ends⟩ := reads
  cases continues with
  | @wanting _ value front _ takes spelled =>
      exact ⟨text :: value :: front, _, behind, base, rfl,
        .nothing (.cons (.pair names takes) spelled), accepted, ends⟩

theorem takesAnything_iff : held.takesAnything = true ↔
    exists setting, held = .wanting setting ∧ setting.takesAnything = true := by
  cases held <;> simp [Open.takesAnything]

theorem Argument.of_eq_separator_iff : Argument.of text = .separator ↔ text = "--" := by
  rw [of_eq_iff]
  constructor
  · rintro ⟨same⟩
    exact same
  · exact .separator

/-- Whatever is read is made of items. -/
theorem reads_of_takeAll (taken : takeAll draft held arguments = .ok final) :
    Reads draft held arguments final := by
  -- The induction is on the arguments; a step of the reader gives away the next one.
  induction arguments generalizing draft held with
  | nil =>
      exact .of_settled taken ⟨[], [], [], final, rfl, .nothing .nil, rfl, .bare⟩
  | cons text others inductionHypothesis =>
      rw [takeAll] at taken
      by_cases anything : held.takesAnything = true
      · obtain ⟨setting, rfl, takes⟩ := takesAnything_iff.mp anything
        rw [if_pos anything, takePlain_wanting] at taken
        exact .of_value (.inl takes) (inductionHypothesis taken)
      rw [if_neg anything] at taken
      by_cases separator : Argument.of text = .separator
      · rw [if_pos separator, bind_eq_ok_iff] at taken
        obtain ⟨settled, judged, ⟨⟩⟩ := taken
        rw [Argument.of_eq_separator_iff.mp separator]
        exact .of_settled judged
          ⟨[], [], "--" :: others, settled, rfl, .nothing .nil, rfl, .separated others⟩
      have other : text ≠ "--" := fun same => separator (Argument.of_eq_separator_iff.mpr same)
      rw [if_neg separator, bind_eq_ok_iff] at taken
      obtain ⟨⟨next, opened⟩, stepped, later⟩ := taken
      rw [takeArgument_eq_ok_iff other] at stepped
      have reads := inductionHypothesis later
      cases stepped with
      | value bare => exact .of_value (.inr bare) reads
      | alone alone judged accepted => exact .of_settled judged (.of_alone alone accepted reads)
      | opened names judged => exact .of_settled judged (.of_opened names reads)

theorem Bare.ne_separator (bare : Bare text) : text ≠ "--" := by
  rintro rfl
  rcases bare with dash | other
  · exact absurd dash (by decide)
  · exact other rfl

theorem Setting.Opened.ne_separator (names : setting.Opened text) : text ≠ "--" := by
  cases names with
  | long => cases setting <;> decide
  | letter => decide

theorem Item.Alone.ne_separator {item : Item} (alone : item.Alone text) : text ≠ "--" := by
  have told : Argument.of text ≠ .separator := by
    cases alone with
    | assigned setting value =>
        rw [Argument.of_eq_iff.mpr (.assigned rfl setting.equals_not_mem_name)]
        nofun
    | letterAssigned value =>
        rw [Argument.of_letterAssigned]
        nofun
    | @letterJoined value =>
        rw [Argument.of_letterJoined]
        nofun
    | mainClass bare =>
        rw [Argument.of_plain bare]
        nofun
  exact fun same => told (Argument.of_eq_separator_iff.mpr same)

theorem takeAll_taken (other : text ≠ "--") (sober : held.takesAnything = false)
    (stepped : Taken draft text held next opened) :
    takeAll draft held (text :: others) = takeAll next opened others := by
  rw [takeAll, if_neg (by rw [sober]; nofun),
    if_neg fun same => other (Argument.of_eq_separator_iff.mp same),
    (takeArgument_eq_ok_iff other).mpr stepped]
  rfl

/-- The next argument is the value of an option that takes it. -/
theorem takeAll_value (takes : setting.Takes value) :
    takeAll draft (.wanting setting) (value :: others) =
      takeAll draft (.holding setting value) others := by
  by_cases anything : setting.takesAnything = true
  · rw [takeAll, if_pos (show (Open.wanting setting).takesAnything = true from anything),
      takePlain_wanting]
    rfl
  · have bare := takes.resolve_left anything
    exact takeAll_taken bare.ne_separator (Bool.eq_false_iff.mpr anything) (.value bare)

theorem takesAnything_of_settle (judged : draft.settle held = .ok next) :
    held.takesAnything = false := by
  cases held with
  | nothing => rfl
  | wanting setting => cases judged
  | holding setting value => rfl

theorem takeAll_ends (judged : draft.settle held = .ok base) (ends : Ends base behind final) :
    takeAll draft held behind = .ok final := by
  cases ends with
  | bare => exact judged
  | separated rest =>
      rw [takeAll, if_neg (by rw [takesAnything_of_settle judged]; nofun),
        if_pos Argument.of_separator, judged]
      rfl

/-- Whatever is made of items that do not contradict one another is read. -/
theorem takeAll_of_spelled (spelled : Spelled front items) (judged : draft.settle held = .ok next)
    (accepted : next.acceptAll items = .ok base) (ends : Ends base behind final) :
    takeAll draft held (front ++ behind) = .ok final := by
  -- One item at a time; the next one finds the reader with the last one to be judged.
  induction spelled generalizing draft held next with
  | nil =>
      cases accepted
      exact takeAll_ends judged ends
  | @cons item items front others written _ inductionHypothesis =>
      obtain ⟨settled, assigned, later⟩ := Draft.acceptAll_cons_eq_ok_iff.mp accepted
      have sober := takesAnything_of_settle judged
      cases written with
      | alone alone =>
          rw [List.append_assoc, List.singleton_append,
            takeAll_taken alone.ne_separator sober (.alone alone judged assigned)]
          exact inductionHypothesis rfl later
      | @pair setting text value names takes =>
          rw [List.append_assoc, List.cons_append, List.singleton_append,
            takeAll_taken names.ne_separator sober (.opened names judged), takeAll_value takes]
          exact inductionHypothesis assigned later

/-- The command lines that are read, and what they settle. -/
theorem takeAll_eq_ok_iff : takeAll draft .nothing arguments = .ok final ↔
    exists front items behind base, arguments = front ++ behind ∧ Spelled front items ∧
      draft.acceptAll items = .ok base ∧ Ends base behind final := by
  constructor
  · intro taken
    obtain ⟨front, items, behind, base, parts, ⟨spelled⟩, accepted, ends⟩ := reads_of_takeAll taken
    exact ⟨front, items, behind, base, parts, spelled, accepted, ends⟩
  · rintro ⟨front, items, behind, base, rfl, spelled, accepted, ends⟩
    exact takeAll_of_spelled spelled rfl accepted ends

end CommandLine
end LineDebugger
