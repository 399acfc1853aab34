import LineDebugger.Debuggee.Scripted
import LineDebugger.Proofs.Session.Announcement
import LineDebugger.Proofs.Session.Ending

namespace LineDebugger
namespace Session

open Debuggee

/-!
# Whether a halt reaches the operator

The first event of a batch that halts a thread is announced, and then the operator is
consulted, before the debuggee is resumed and not again in this batch.  This is what
happens unless the announcement is hindered.  A loss of the target ends the session.  A
completed step that cannot be deleted has a consequence that is less welcome: the event is
left behind, and if no other halt follows in the batch, the debuggee is resumed and the
operator has not been asked.  An example of this stands at the end.
-/

variable {σ ε : Type}

/-! ## Consultations -/

/-- The operator is not consulted. -/
def Unconsulted (log : List (Moment σ)) : Prop :=
  forall moment, moment ∈ log -> moment.mark ≠ .consulted

/-- After `earlier` the operator's lines have been read, or the end of the input noticed, and
the operator has not been consulted anew. -/
def Talked (earlier log : List (Moment σ)) : Prop :=
  exists present line tail, log = earlier ++ ⟨present, .read line⟩ :: tail ∧ Unconsulted tail

theorem Unconsulted.append {log later : List (Moment σ)} (first : Unconsulted log)
    (second : Unconsulted later) : Unconsulted (log ++ later) :=
  List.forall_mem_append.mpr ⟨first, second⟩

theorem Smooth.unconsulted {event : TargetEvent} {log : List (Moment σ)}
    (smooth : Smooth event log) : Unconsulted log := by
  intro moment member consulted
  have announces := (smooth moment member).1
  rw [consulted] at announces
  exact announces

theorem HinderedBy.unconsulted {event : TargetEvent} {hindrance : Hindrance}
    {log : List (Moment σ)} (hindered : HinderedBy event hindrance log) : Unconsulted log := by
  obtain ⟨smooth, last, rfl, quiet, announces, _⟩ := hindered
  refine quiet.unconsulted.append (List.forall_mem_singleton.mpr fun consulted => ?_)
  rw [consulted] at announces
  exact announces

theorem Talked.append {earlier log later : List (Moment σ)} (talked : Talked earlier log)
    (unconsulted : Unconsulted later) : Talked earlier (log ++ later) := by
  obtain ⟨present, line, tail, rfl, quiet⟩ := talked
  refine ⟨present, line, tail ++ later, ?_, quiet.append unconsulted⟩
  rw [List.append_assoc, List.cons_append]

theorem Talked.snoc {earlier log : List (Moment σ)} {moment : Moment σ}
    (talked : Talked earlier log) (different : moment.mark ≠ .consulted) :
    Talked earlier (log ++ [moment]) :=
  talked.append (List.forall_mem_singleton.mpr different)

theorem unconsulted_allows : AllowsTalk fun mark => mark ≠ .consulted where
  say _ := by intro impossible; cases impossible
  read _ := by intro impossible; cases impossible
  ask _ _ _ _ := by intro impossible; cases impossible

theorem interpret_unconsulted (target : Target σ) (situation : Situation σ) :
    Unconsulted (interpret target situation).log :=
  Calm.interpret_permits unconsulted_allows target situation

/-- The first thing that a consultation does is to wait for a line. -/
theorem interpret_reads (target : Target σ) (situation : Situation σ) :
    exists present line tail,
      (interpret target situation).log = ⟨present, .read line⟩ :: tail := by
  unfold interpret
  cases situation.input with
  | nil => exact ⟨_, _, _, rfl⟩
  | cons line others => exact ⟨_, _, _, rfl⟩

/-- A consultation fails only when the target is gone. -/
theorem interpretLines_firm {target : Target σ} (lines : List String) (mode : Mode) :
    forall past situation, (interpretLines target lines mode).Reaches firm
      (fun _ _ _ => True) past situation := by
  induction lines generalizing mode with
  | nil =>
      intro past situation
      unfold interpretLines
      rw [Act.reaches_bind, reaches_expect, Act.reaches_bind, reaches_note, Act.reaches_pure]
      trivial
  | cons line others inductionHypothesis =>
      intro past situation
      unfold interpretLines
      rw [Act.reaches_bind, reaches_expect, Act.reaches_bind, reaches_read, Act.reaches_bind,
        Act.reaches_attempt]
      refine Act.reaches_somehow.imp ?_ (fun _ _ => trivial) ?_
      · intro error log after _
        cases lost : error.lost? with
        | some loss =>
            simp only [lost]
            exact Act.reaches_fail.mpr (error.isDisconnect_of_lost? lost)
        | none =>
            simp only [lost, Act.reaches_bind, reaches_say]
            exact inductionHypothesis .command _ _
      · intro turn log after _
        cases turn with
        | expect next => exact inductionHypothesis next log after
        | handOver handover => exact Act.reaches_pure.mpr trivial

theorem interpret_talks {target : Target σ} (earlier : List (Moment σ))
    (situation : Situation σ) :
    (interpret target).Reaches ((Exits.anyway (Talked earlier)).both firm)
      (fun _ log _ => Talked earlier log) earlier situation := by
  have talked : (interpret target).Reaches (.anyway (Talked earlier))
      (fun _ log _ => Talked earlier log) earlier situation := by
    obtain ⟨present, line, tail, reads⟩ := interpret_reads target situation
    have unconsulted := interpret_unconsulted target situation
    rw [reads] at unconsulted
    refine Act.reaches_anyway.mpr ⟨present, line, tail, by rw [reads], ?_⟩
    exact fun moment member => unconsulted moment (List.mem_cons_of_mem _ member)
  have firmly : (interpret target).Reaches firm (fun _ _ _ => True) earlier situation :=
    interpretLines_firm situation.input .command earlier situation
  exact (talked.both firmly).widen fun _ _ _ held => held.1

/-- What a course says about consultations: once is enough. -/
def Course.Consulted : Course -> Prop
  | .goOn consulted => consulted = true
  | .finish _ => True

theorem consult_talks {target : Target σ} (earlier : List (Moment σ))
    (situation : Situation σ) :
    (consult target false).Reaches
      ((Exits.anyway (Talked (earlier ++ [⟨situation, .consulted⟩]))).both firm)
      (fun course log _ =>
        course.Consulted ∧ Talked (earlier ++ [⟨situation, .consulted⟩]) log)
      earlier situation := by
  unfold consult
  rw [if_neg Bool.false_ne_true, Act.reaches_bind, reaches_note]
  refine (interpret_talks _ situation).bind fun handover log after talked => ?_
  cases handover with
  | exited => exact Act.reaches_pure.mpr ⟨trivial, talked⟩
  | resumed => exact Act.reaches_pure.mpr ⟨rfl, talked⟩
  | stepped => exact Act.reaches_pure.mpr ⟨rfl, talked⟩

/-! ## The rest of a batch -/

section Rest

variable {target : Target σ} {earlier past : List (Moment σ)} {situation : Situation σ}

/-- Once the operator has been consulted, the rest of the batch does not consult the operator
again.  The induction is on the events that are left. -/
theorem dispatchAll_talks (events : List TargetEvent) : forall past situation,
    Talked earlier past ->
    (dispatchAll target true events : Dialogue σ ε (Option SessionEnd)).Reaches
      (.anyway (Talked earlier)) (fun _ log _ => Talked earlier log) past situation := by
  induction events with
  | nil => exact fun past situation talked => Act.reaches_pure.mpr talked
  | cons event others inductionHypothesis =>
      intro past situation talked
      unfold dispatchAll
      rw [Act.reaches_bind, reaches_note, Act.reaches_bind, Act.reaches_attempt]
      have turned : Talked earlier (past ++ [⟨situation, .turnedTo event⟩]) :=
        talked.snoc (by intro impossible; cases impossible)
      cases halts : event.halts with
      | true =>
          refine Reaches.halt halts ?_ ?_ ?_
          · intro announcement after smooth
            unfold consult
            rw [if_pos rfl, Act.reaches_pure]
            exact inductionHypothesis _ after (turned.append smooth.unconsulted)
          · intro error announcement after hindered
            have told := turned.append hindered.unconsulted
            cases gone : error.isDisconnect with
            | true =>
                simp only [gone, if_true]
                rw [Act.reaches_bind, reaches_connectionLost, Act.reaches_pure]
                exact told.snoc (by intro impossible; cases impossible)
            | false =>
                simp only [gone, Bool.false_eq_true, if_false]
                rw [Act.reaches_bind, reaches_say]
                exact inductionHypothesis _ after
                  (told.snoc (by intro impossible; cases impossible))
          · exact fun announcement hindered => turned.append hindered.unconsulted
      | false =>
          cases event with
          | disconnected =>
              unfold dispatch
              rw [Act.reaches_bind, reaches_say, Act.reaches_bind, reaches_change,
                Act.reaches_pure, Act.reaches_pure]
              exact turned.snoc (by intro impossible; cases impossible)
          | other => exact Act.reaches_pure.mpr (inductionHypothesis _ situation turned)
          | classPrepared thread classId className => cases halts
          | breakpointHit request thread location => cases halts
          | stepCompleted request thread location => cases halts

theorem resumeTarget_talks (talked : Talked earlier past) :
    (resumeTarget target : Dialogue σ ε (Option SessionEnd)).Reaches
      (.anyway (Talked earlier)) (fun _ log _ => Talked earlier log) past situation := by
  have asked : Talked earlier (past ++ [.asking target .resume situation]) :=
    talked.snoc (by intro impossible; cases impossible)
  refine Reaches.tryAsk (fun _ _ => Act.reaches_pure.mpr asked) ?_ (fun _ => asked)
  intro error responded
  cases gone : error.isDisconnect with
  | true =>
      simp only [gone, if_true]
      rw [Act.reaches_bind, reaches_connectionLost, Act.reaches_pure]
      exact asked.snoc (by intro impossible; cases impossible)
  | false =>
      simp only [gone, Bool.false_eq_true, if_false]
      rw [Act.reaches_bind, reaches_say, Act.reaches_pure]
      exact asked.snoc (by intro impossible; cases impossible)

/-- Events of no interest are only turned to. -/
theorem reaches_dispatchAll_other {quiet : List TargetEvent}
    (silent : forall event, event ∈ quiet -> event = .other) (consulted : Bool)
    (others : List TargetEvent) {exits : Exits (Situation σ) (Moment σ) ε}
    {goal : Option SessionEnd -> List (Moment σ) -> Situation σ -> Prop} :
    (dispatchAll target consulted (quiet ++ others)).Reaches exits goal past situation ↔
      (dispatchAll target consulted others).Reaches exits goal
        (past ++ quiet.map fun event => ⟨situation, .turnedTo event⟩) situation := by
  induction quiet generalizing past with
  | nil => rw [List.nil_append, List.map_nil, List.append_nil]
  | cons event quiet inductionHypothesis =>
      have other : event = .other := silent event (List.mem_cons.mpr (Or.inl rfl))
      have step : (dispatchAll target consulted (event :: quiet ++ others)).Reaches exits goal
            past situation ↔
          (dispatchAll target consulted (quiet ++ others)).Reaches exits goal
            (past ++ [⟨situation, .turnedTo event⟩]) situation := by
        subst other
        rw [List.cons_append]
        conv => lhs; unfold dispatchAll
        rw [Act.reaches_bind, reaches_note, Act.reaches_bind, Act.reaches_attempt]
        exact Act.reaches_pure
      rw [step, inductionHypothesis fun later member =>
        silent later (List.mem_cons_of_mem _ member)]
      rw [List.map_cons, List.append_assoc, List.singleton_append]

end Rest

/-! ## The first halt -/

/-- What follows the turn to the first event of a batch that halts a thread.  The operator is
consulted unless the announcement is hindered.  If it is hindered because the request of the
completed step could not be deleted, the batch goes on as if the event had not been in it. -/
inductive Aftermath (ε : Type) (target : Target σ) (suspended : Bool) (event : TargetEvent)
    (later : List TargetEvent) : List (Moment σ) -> Prop where
  | consulted {announcement : List (Moment σ)} {present : Situation σ} {log : List (Moment σ)} :
      Smooth event announcement -> Talked (announcement ++ [⟨present, .consulted⟩]) log ->
      Aftermath ε target suspended event later log
  | waiting {announcement : List (Moment σ)} :
      HinderedBy event .waiting announcement ->
      Aftermath ε target suspended event later announcement
  | lost {announcement : List (Moment σ)} (present : Situation σ) :
      HinderedBy event .lost announcement ->
      Aftermath ε target suspended event later (announcement ++ [⟨present, .said lossNotice⟩])
  | kept {announcement : List (Moment σ)} {error : TargetError} (present : Situation σ) :
      HinderedBy event (.kept error) announcement ->
      Aftermath ε target suspended event later
        (announcement ++ ⟨present, .said ("error while handling event: " ++ error.message)⟩ ::
          ((dispatchBatch target ⟨suspended, later⟩ : Dialogue σ ε _) present).log)

theorem Talked.split {front earlier log : List (Moment σ)}
    (talked : Talked (front ++ earlier) log) :
    exists own, Talked earlier own ∧ log = front ++ own := by
  obtain ⟨present, line, tail, rfl, unconsulted⟩ := talked
  exact ⟨_, ⟨present, line, tail, rfl, unconsulted⟩, List.append_assoc _ _ _⟩

/-- What is left of a batch about which the operator has been consulted: the events after the
halt, and the resumption. -/
theorem remainder_talks {target : Target σ} {earlier past : List (Moment σ)} (suspended : Bool)
    (later : List TargetEvent) (talked : Talked earlier past) (situation : Situation σ) :
    (dispatchAll target true later >>= fun result => match result with
      | some reason => pure (some reason)
      | none => if suspended then resumeTarget target else pure none :
        Dialogue σ ε (Option SessionEnd)).Reaches
      (.anyway (Talked earlier)) (fun _ log _ => Talked earlier log) past situation := by
  refine (dispatchAll_talks later past situation talked).bind fun result log after talked => ?_
  cases result with
  | some reason => exact Act.reaches_pure.mpr talked
  | none =>
      cases suspended with
      | true => exact resumeTarget_talks talked
      | false => exact Act.reaches_pure.mpr talked

/-- The log of a batch is accounted for if what follows the marks `front` is an aftermath. -/
def Accounted (ε : Type) (target : Target σ) (suspended : Bool) (event : TargetEvent)
    (later : List TargetEvent) (front log : List (Moment σ)) : Prop :=
  exists aftermath, Aftermath ε target suspended event later aftermath ∧ log = front ++ aftermath

section Account

variable {target : Target σ} {suspended : Bool} {event : TargetEvent}
  {later : List TargetEvent} {front announcement log : List (Moment σ)} {present : Situation σ}

theorem Accounted.of_talked (smooth : Smooth event announcement)
    (talked : Talked (front ++ (announcement ++ [⟨present, .consulted⟩])) log) :
    Accounted ε target suspended event later front log := by
  obtain ⟨own, talkedOn, rfl⟩ := talked.split
  exact ⟨own, .consulted smooth talkedOn, rfl⟩

/-- What is done once the operator has been consulted completes the account. -/
theorem Accounted.of_talks {δ α : Type} {act : Dialogue σ δ α} {state : Situation σ}
    (smooth : Smooth event announcement)
    (talks : act.Reaches
      (.anyway (Talked (front ++ (announcement ++ [⟨present, .consulted⟩]))))
      (fun _ log _ => Talked (front ++ (announcement ++ [⟨present, .consulted⟩])) log)
      log state) :
    act.Reaches (.anyway (Accounted ε target suspended event later front))
      (fun _ log _ => Accounted ε target suspended event later front log) log state :=
  talks.imp (fun _ _ _ talked => .of_talked smooth talked)
    (fun _ talked => .of_talked smooth talked) (fun _ _ _ talked => .of_talked smooth talked)

end Account

/-- What is done with a batch, up to and after its first halting event. -/
theorem first_halt_is_announced (target : Target σ) {batch : EventBatch}
    {quiet later : List TargetEvent} {event : TargetEvent}
    (events : batch.events = quiet ++ event :: later)
    (silent : forall passed, passed ∈ quiet -> passed = .other) (halts : event.halts = true)
    (situation : Situation σ) :
    Accounted ε target batch.suspended event later
      ((quiet ++ [event]).map fun turned => ⟨situation, .turnedTo turned⟩)
      ((dispatchBatch target batch : Dialogue σ ε _) situation).log := by
  rw [List.map_append, List.map_singleton]
  generalize fronted : quiet.map (fun turned => (⟨situation, .turnedTo turned⟩ : Moment σ)) ++
    [⟨situation, .turnedTo event⟩] = front
  have accounted : (dispatchBatch target batch : Dialogue σ ε _).Reaches
      (.anyway (Accounted ε target batch.suspended event later front))
      (fun _ log _ => Accounted ε target batch.suspended event later front log) [] situation := by
    unfold dispatchBatch
    rw [Act.reaches_bind, events, reaches_dispatchAll_other silent]
    unfold dispatchAll
    rw [Act.reaches_bind, reaches_note, Act.reaches_bind, Act.reaches_attempt, List.nil_append,
      fronted]
    refine Reaches.halt halts ?_ ?_ ?_
    · intro announcement after smooth
      refine (consult_talks _ after).imp ?_ ?_ ?_
      · rintro error log state ⟨talked, gone⟩
        have isLoss : error.isDisconnect = true := gone
        rw [List.append_assoc] at talked
        have told : Talked _ (log ++ [⟨state, .said lossNotice⟩]) :=
          talked.snoc (by intro impossible; cases impossible)
        simp only [isLoss, if_true]
        rw [Act.reaches_bind, reaches_connectionLost, Act.reaches_pure]
        exact Act.reaches_pure.mpr (.of_talked smooth told)
      · rintro log ⟨talked, _⟩
        rw [List.append_assoc] at talked
        exact .of_talked smooth talked
      · rintro course log state ⟨once, talked⟩
        rw [List.append_assoc] at talked
        cases course with
        | finish reason =>
            rw [Act.reaches_pure]
            exact Act.reaches_pure.mpr (.of_talked smooth talked)
        | goOn consulted =>
            have again : consulted = true := once
            subst again
            refine Act.reaches_bind.mp ?_
            exact Accounted.of_talks smooth (remainder_talks batch.suspended later talked state)
    · intro error announcement after hindered
      cases gone : error.isDisconnect with
      | true =>
          rw [Hindrance.ofError_lost gone] at hindered
          simp only [gone, if_true]
          rw [Act.reaches_bind, reaches_connectionLost, Act.reaches_pure]
          exact Act.reaches_pure.mpr ⟨_, .lost after hindered, List.append_assoc _ _ _⟩
      | false =>
          rw [Hindrance.ofError_kept gone] at hindered
          simp only [gone, Bool.false_eq_true, if_false]
          rw [Act.reaches_bind, reaches_say]
          -- What remains is the batch without the event and those before it.
          refine Act.reaches_bind.mp ?_
          change (dispatchBatch target ⟨batch.suspended, later⟩ : Dialogue σ ε _).Reaches _ _ _ _
          refine Act.reaches_anyway.mpr ⟨_, .kept after hindered, ?_⟩
          rw [List.append_assoc, List.append_assoc]
          rfl
    · exact fun announcement hindered => ⟨announcement, .waiting hindered, rfl⟩
  exact Act.reaches_anyway.mp accounted

/-- A target that knows nothing and cannot delete the first step it is asked to. -/
def stubborn : Scripted where
  facts := ⟨fun _ => [], [], [], fun _ _ => none, fun _ => none⟩
  prepared
    | .deleteStep => [some (.error (.other "busy"))]
    | _ => []

/-- A class that is prepared after an event of no interest, in one batch. -/
theorem prepared_class_is_announced :
    let batch : EventBatch := ⟨true, [.other, .classPrepared 1 1 "Main"]⟩
    let situation : Situation Scripted := .initial stubborn ["r"] "Main"
    Accounted Empty Scripted.target true (.classPrepared 1 1 "Main") []
      ([.other, .classPrepared 1 1 "Main"].map fun turned => ⟨situation, .turnedTo turned⟩)
      ((dispatchBatch Scripted.target batch : Dialogue Scripted Empty _) situation).log := by
  intro batch situation
  have events : batch.events = [.other] ++ .classPrepared 1 1 "Main" :: [] := rfl
  exact first_halt_is_announced Scripted.target events
    (fun passed member => List.mem_singleton.mp member) rfl situation

/-! ## A halt that is passed over -/

/-- A suspended batch with one halt in it, which has been announced.  The operator has a line
ready, but it is not read, and the debuggee is resumed. -/
theorem completed_step_passed_over :
    let location : Location := ⟨1, "Main", 1, "main", some 3, 0⟩
    let batch : EventBatch := ⟨true, [.stepCompleted 7 1 location]⟩
    ((dispatchBatch Scripted.target batch : Dialogue Scripted Empty _)
        (.initial stubborn ["r"] "Main")).log.map Moment.mark =
      [.turnedTo (.stepCompleted 7 1 location), .said "step halted in main at 3, 0",
        .asked (.frames 1 (some 1)) (.ok []) [],
        .said "cannot read variables: no such element: thread has no frames",
        .asked (.deleteStep 7) (.failed (.other "busy")) [],
        .said "error while handling event: target error: busy",
        .asked .resume (.ok ()) []] := by
  rfl

end Session
end LineDebugger
