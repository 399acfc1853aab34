import LineDebugger.Proofs.Session.Orientation
import LineDebugger.Proofs.Session.Resumption

namespace LineDebugger

/-- A request about the halted thread or its class, as far as it is about a thread or a class
at all. -/
def Debuggee.Request.Respects (context : Session.HaltContext) : Debuggee.Request -> Prop
  | .frames thread _ | .visibleVariables thread _ | .createStep thread _ _ =>
      thread = context.thread
  | .locationsOfLine classId _ => classId = context.classId
  | _ => True

theorem Debuggee.Request.Arranges.respects {context : Session.HaltContext}
    {request : Debuggee.Request} (arranges : request.Arranges (· = context)) :
    request.Respects context := by
  cases request with
  | locationsOfLine classId line =>
      obtain ⟨_, rfl, same⟩ := arranges
      exact same
  | createStep thread scope filter =>
      obtain ⟨_, rfl, same⟩ := arranges
      exact same
  | frames thread limit => exact arranges.elim
  | visibleVariables thread frame => exact arranges.elim
  | _ => trivial

theorem Debuggee.Request.respects_of_details {context : Session.HaltContext}
    {request : Debuggee.Request} (details : request.kind.details = true) :
    request.Respects context := by
  cases request with
  | frames thread limit => cases details
  | visibleVariables thread frame => cases details
  | createStep thread scope filter => cases details
  | locationsOfLine classId line => cases details
  | _ => trivial

namespace Session

open Debuggee

/-!
# What a halted session is looking at

A session may go through many halts, several of them in one batch, and everything it knows of
a halt is a thread and a class on record.  Looking at the wrong thread, or at a frame that a
thread has left long ago, would show the operator values that are nowhere in the debuggee.

So every request that is made while the debuggee is halted is set against the event that was
turned to last, and every look at variables against the moment just before it.  These are
statements about single moments of a log, given what happened before them, and they are kept
by every step of a run.  While an event is handled, the regime also says that the halt on
record is the one that this event brought about.
-/

variable {σ ε : Type} {target : Target σ}

/-! ## Moments of a halt -/

/-- A mark that leaves an event at hand: no other event is turned to, and the debuggee is
neither resumed nor waited for nor let go. -/
def Mark.Lingers : Mark -> Prop
  | .turnedTo _ => False
  | mark => mark.Halted

/-- The event is at hand: it has been turned to, and nothing since then has led away from it. -/
def AtHand (event : TargetEvent) (log : List (Moment σ)) : Prop :=
  exists front present tail, log = front ++ ⟨present, .turnedTo event⟩ :: tail ∧
    forall moment, moment ∈ tail -> moment.mark.Lingers

/-- The operator is being consulted about the event. -/
def UnderConsultation (event : TargetEvent) (log : List (Moment σ)) : Prop :=
  exists front present tail, log = front ++ ⟨present, .consulted⟩ :: tail ∧
    AtHand event front ∧ forall moment, moment ∈ tail -> moment.mark.Lingers

/-- The halt on record is the one that the event at hand has brought about. -/
def Current (log : List (Moment σ)) (situation : Situation σ) : Prop :=
  forall event context, AtHand event log -> event.halt? = some context ->
    situation.records.context = some context

/-- What the session has in view when it makes a mark, given what has happened earlier. -/
def Mark.InView (target : Target σ) (earlier : List (Moment σ)) (present : Situation σ) :
    Mark -> Prop
  | .said _ | .turnedTo _ => True
  /- The operator is consulted about a halt. -/
  | .consulted => exists event context, AtHand event earlier ∧ event.halt? = some context
  /- The operator's lines are about this halt, and none fails for want of one. -/
  | .read answer =>
      (exists event context, UnderConsultation event earlier ∧ event.halt? = some context) ∧
      forall line others, answer = some line ->
        (present.mode.take target line { present with input := others }).outcome ≠
          .failed .noContext
  /- Requests that do not drive the debuggee concern the thread and the class of a halt, and
  variables are looked at in the frame that has just been found to be the innermost. -/
  | .asked request _ _ => request.kind.drives = false ->
      (exists event context, AtHand event earlier ∧ event.halt? = some context ∧
        request.Respects context) ∧
      forall thread frame, request = .visibleVariables thread frame ->
        exists front found others, earlier = front ++ [found] ∧
          found.Asks (.frames thread (some 1)) (.ok (frame :: others))

/-- What a session attends to at a moment, given what has happened earlier. -/
structure Attended (target : Target σ) (earlier : List (Moment σ)) (moment : Moment σ) :
    Prop where
  /-- As long as an event is at hand, its halt is on record. -/
  current : moment.mark.Lingers -> Current earlier moment.before
  inView : moment.mark.InView target earlier moment.before

/-- A log in which every moment is attended to. -/
def Attentive (target : Target σ) (log : List (Moment σ)) : Prop :=
  forall earlier moment later, log = earlier ++ moment :: later ->
    Attended target earlier moment

/-! ### Events at hand -/

section AtHand

variable {event : TargetEvent} {log : List (Moment σ)} {moment : Moment σ}

theorem lingers_snoc {tail : List (Moment σ)}
    (lingering : forall earlier, earlier ∈ tail -> earlier.mark.Lingers)
    (lingers : moment.mark.Lingers) :
    forall earlier, earlier ∈ tail ++ [moment] -> earlier.mark.Lingers :=
  List.forall_mem_append.mpr ⟨lingering, List.forall_mem_singleton.mpr lingers⟩

theorem atHand_turnedTo (situation : Situation σ) :
    AtHand event (log ++ [⟨situation, .turnedTo event⟩]) :=
  ⟨log, situation, [], rfl, List.forall_mem_nil _⟩

theorem AtHand.snoc (atHand : AtHand event log) (lingers : moment.mark.Lingers) :
    AtHand event (log ++ [moment]) := by
  obtain ⟨front, present, tail, rfl, lingering⟩ := atHand
  exact ⟨front, present, tail ++ [moment], List.append_assoc _ _ _,
    lingers_snoc lingering lingers⟩

/-- An event comes to hand by being turned to. -/
theorem AtHand.of_snoc (atHand : AtHand event (log ++ [moment])) :
    moment.mark = .turnedTo event ∨ (AtHand event log ∧ moment.mark.Lingers) := by
  obtain ⟨front, present, tail, split, lingering⟩ := atHand
  rcases last_place split with ⟨rfl, rfl, rfl⟩ | ⟨between, rfl, rfl⟩
  · exact Or.inl rfl
  · refine Or.inr ⟨⟨front, present, between, rfl, fun earlier member => ?_⟩, ?_⟩
    · exact lingering earlier (List.mem_append_left _ member)
    · exact lingering moment (List.mem_append_right between (List.mem_singleton.mpr rfl))

/-- Only one event is at hand at a time. -/
theorem AtHand.unique {second : TargetEvent} (atHand : AtHand event log)
    (secondAtHand : AtHand second log) : event = second := by
  obtain ⟨front, present, tail, rfl, lingering⟩ := atHand
  obtain ⟨otherFront, otherPresent, otherTail, split, otherLingering⟩ := secondAtHand
  rcases places split with ⟨same, _⟩ | member | member
  · cases same
    rfl
  · exact (otherLingering _ member).elim
  · exact (lingering _ member).elim

theorem AtHand.current {context : HaltContext} {situation : Situation σ}
    (atHand : AtHand event log) (halts : event.halt? = some context)
    (halted : situation.records.context = some context) : Current log situation := by
  intro second brought secondAtHand secondHalts
  cases atHand.unique secondAtHand
  cases halts.symm.trans secondHalts
  exact halted

theorem UnderConsultation.snoc (consulting : UnderConsultation event log)
    (lingers : moment.mark.Lingers) : UnderConsultation event (log ++ [moment]) := by
  obtain ⟨front, present, tail, rfl, atHand, lingering⟩ := consulting
  exact ⟨front, present, tail ++ [moment], List.append_assoc _ _ _, atHand,
    lingers_snoc lingering lingers⟩

/-- An event stays at hand while the operator is consulted about it. -/
theorem UnderConsultation.atHand (consulting : UnderConsultation event log) :
    AtHand event log := by
  obtain ⟨front, present, tail, rfl, ⟨earlier, turning, between, rfl, lingered⟩, lingering⟩ :=
    consulting
  refine ⟨earlier, turning, between ++ ⟨present, .consulted⟩ :: tail, ?_, ?_⟩
  · rw [List.append_assoc, List.cons_append]
  · exact List.forall_mem_append.mpr ⟨lingered, List.forall_mem_cons.mpr ⟨trivial, lingering⟩⟩

end AtHand

/-! ### Single moments -/

theorem attentive_nil (target : Target σ) : Attentive target [] := by
  intro earlier moment later impossible
  cases earlier <;> cases impossible

theorem Attentive.snoc {log : List (Moment σ)} {moment : Moment σ}
    (attentive : Attentive target log) (attended : Attended target log moment) :
    Attentive target (log ++ [moment]) := by
  intro earlier other later split
  rcases last_place split with ⟨rfl, rfl, rfl⟩ | ⟨between, rfl, rfl⟩
  · exact attended
  · exact attentive earlier other between rfl

namespace Attended

variable {earlier : List (Moment σ)} {present : Situation σ}

theorem said {line : String} (current : Current earlier present) :
    Attended target earlier ⟨present, .said line⟩ :=
  ⟨fun _ => current, trivial⟩

theorem turnedTo {event : TargetEvent} :
    Attended target earlier ⟨present, .turnedTo event⟩ :=
  ⟨fun lingers => lingers.elim, trivial⟩

theorem driving {request : Request} (drives : request.kind.drives = true) :
    Attended target earlier (.asking target request present) := by
  have undriven : request.kind.drives ≠ false := by
    rw [drives]
    decide
  exact ⟨fun lingers => absurd lingers undriven, fun halted => absurd halted undriven⟩

section Halted

variable {context : HaltContext} {event : TargetEvent} (halts : event.halt? = some context)
  (halted : present.records.context = some context)
include halts halted

theorem consulted (atHand : AtHand event earlier) :
    Attended target earlier ⟨present, .consulted⟩ :=
  ⟨fun _ => atHand.current halts halted, event, context, atHand, halts⟩

theorem read {answer : Option String} (consulting : UnderConsultation event earlier) :
    Attended target earlier ⟨present, .read answer⟩ := by
  refine ⟨fun _ => consulting.atHand.current halts halted,
    ⟨event, context, consulting, halts⟩, fun line others _ => ?_⟩
  have remains : ({ present with input := others } : Situation σ).records.context =
      some context := halted
  exact take_ne_noContext remains present.mode line

theorem asking {request : Request} (atHand : AtHand event earlier)
    (respects : request.Respects context)
    (looks : forall thread frame, request = .visibleVariables thread frame ->
      exists front found others, earlier = front ++ [found] ∧
        found.Asks (.frames thread (some 1)) (.ok (frame :: others))) :
    Attended target earlier (.asking target request present) :=
  ⟨fun _ => atHand.current halts halted,
    fun _ => ⟨⟨event, context, atHand, halts, respects⟩, looks⟩⟩

end Halted
end Attended

/-! ## While an event is at hand -/

/-- What is true of a log while an event is at hand, and stays true until it is left. -/
structure Position (event : TargetEvent) (position : List (Moment σ) -> Prop) : Prop where
  atHand : forall {log}, position log -> AtHand event log
  linger : forall {log moment}, position log -> moment.mark.Lingers -> position (log ++ [moment])

theorem atHand_position (event : TargetEvent) :
    Position event (AtHand event : List (Moment σ) -> Prop) where
  atHand atHand := atHand
  linger := AtHand.snoc

theorem underConsultation_position (event : TargetEvent) :
    Position event (UnderConsultation event : List (Moment σ) -> Prop) where
  atHand := UnderConsultation.atHand
  linger := UnderConsultation.snoc

/-- The regime of a session at a halt. -/
def attending (target : Target σ) (context : HaltContext)
    (position : List (Moment σ) -> Prop) : Regime σ where
  holds log situation := Attentive target log ∧ position log ∧
    situation.records.context = some context
  lost log situation := Attentive target log ∧ position log ∧
    situation.records.context = some context
  left log _ := Attentive target log
  waiting := Attentive target

namespace Attending

open Regime

variable {event : TargetEvent} {context : HaltContext}

section Laws

variable {position : List (Moment σ) -> Prop} (stays : Position event position)
include stays

/-- A moment that does not lead away from the event. -/
theorem snoc {log : List (Moment σ)} {situation after : Situation σ} {mark : Mark}
    (holds : (attending target context position).holds log situation)
    (attended : Attended target log ⟨situation, mark⟩) (lingers : mark.Lingers)
    (same : after.records = situation.records) :
    (attending target context position).holds (log ++ [⟨situation, mark⟩]) after := by
  refine ⟨holds.1.snoc attended, stays.linger holds.2.1 lingers, ?_⟩
  rw [same]
  exact holds.2.2

/-- The target is asked, and its answer stands at the end of the log. -/
theorem ask_reaches {request : Request} {past : List (Moment σ)} {situation : Situation σ}
    (halted : request.kind.drives = false)
    (holds : (attending target context position).holds past situation)
    (attended : Attended target past (.asking target request situation)) :
    (Dialogue.ask target request).Reaches
      ((attending target context position).exits TargetError.isDisconnect)
      (fun answer log after => (attending target context position).holds log after ∧
        exists found, log = past ++ [found] ∧ found.Asks request (.ok answer))
      past situation := by
  have after : (attending target context position).holds
      (past ++ [.asking target request situation]) (situation.answered target request) :=
    snoc stays holds attended halted rfl
  refine Reaches.ask ?_ ?_ (fun _ => after.1)
  · exact fun answer responded => ⟨after, _, rfl, asking_asks responded⟩
  · exact fun error responded => failed_of_both after after

variable (halts : event.halt? = some context)
include halts

/-- Requests of every kind but one. -/
theorem keepsAsk {request : Request} (halted : request.kind.drives = false)
    (respects : request.Respects context)
    (blind : forall thread frame, request ≠ .visibleVariables thread frame) :
    (attending target context position).Keeps TargetError.isDisconnect
      (Dialogue.ask target request) := by
  intro past situation holds
  have attended : Attended target past (.asking target request situation) := by
    refine .asking halts holds.2.2 (stays.atHand holds.2.1) respects ?_
    exact fun thread frame looks => absurd looks (blind thread frame)
  exact (ask_reaches stays halted holds attended).widen fun _ _ _ held => held.1

/-- The frame is looked at right after it has been found. -/
theorem locals :
    (attending target context position).Keeps TargetError.isDisconnect
      (frameVariables target context.thread) := by
  intro past situation holds
  have finding : Attended target past
      (.asking target (.frames context.thread (some 1)) situation) := by
    refine .asking halts holds.2.2 (stays.atHand holds.2.1) rfl ?_
    intro thread frame impossible
    cases impossible
  unfold frameVariables topFrame
  refine Act.reaches_bind.mpr ((ask_reaches stays rfl holds finding).bind ?_)
  rintro frames _ after ⟨holds, found, rfl, asked⟩
  cases frames with
  | nil => exact Act.reaches_fail.mpr (exits_failed.mpr (Or.inr ⟨rfl, holds⟩))
  | cons frame others =>
      refine Act.reaches_pure.mpr ?_
      have looking : Attended target (past ++ [found])
          (.asking target (.visibleVariables context.thread frame) after) := by
        refine .asking halts holds.2.2 (stays.atHand holds.2.1) rfl ?_
        intro thread innermost same
        cases same
        exact ⟨past, found, others, rfl, asked⟩
      exact (ask_reaches stays rfl holds looking).widen fun _ _ _ held => held.1

theorem shows : (attending target context position).Shows target where
  say _ holds :=
    snoc stays holds (.said ((stays.atHand holds.2.1).current halts holds.2.2)) trivial rfl
  detail request details := by
    have halted : request.kind.drives = false :=
      RequestKind.halted_of_inspects (RequestKind.inspects_of_details details)
    refine keepsAsk stays halts halted (Request.respects_of_details details) ?_
    rintro thread frame rfl
    cases details

theorem overlooks : (attending target context position).Overlooks target (· = context) where
  ask arranges := by
    refine keepsAsk stays halts arranges.halted arranges.respects ?_
    rintro thread frame rfl
    exact arranges.elim
  change rearranges holds := ⟨holds.1, holds.2.1, (rearranges _).1.trans holds.2.2⟩
  changeLost rearranges lost := ⟨lost.1, lost.2.1, (rearranges _).1.trans lost.2.2⟩

end Laws

/-! ### Consultations -/

variable (halts : event.halt? = some context)
include halts

theorem serves :
    (attending target context (UnderConsultation event)).Serves target (· = context) where
  toShows := shows (underConsultation_position event) halts
  concerned holds halted := Option.some.inj (halted.symm.trans holds.2.2)
  expect holds := holds
  read _ holds :=
    snoc (underConsultation_position event) holds (.read halts holds.2.2 holds.2.1) trivial rfl
  leave _ _ holds := holds.1.snoc (.read halts holds.2.2 holds.2.1)
  inputEnds holds := holds.1.snoc (.read halts holds.2.2 holds.2.1)
  locals := by
    rintro _ rfl
    exact locals (underConsultation_position event) halts
  stack := by
    rintro _ rfl
    refine keepsAsk (underConsultation_position event) halts rfl rfl ?_
    intro thread frame impossible
    cases impossible
  setBreakpoint line concerned :=
    (overlooks (underConsultation_position event) halts).setBreakpoint _ concerned line
  deleteBreakpoint := (overlooks (underConsultation_position event) halts).deleteBreakpoint
  requestStep scope concerned :=
    (overlooks (underConsultation_position event) halts).requestStep _ concerned scope

/-- While the operator is consulted the event stays at hand. -/
theorem consult_reaches {past : List (Moment σ)} {situation : Situation σ}
    (holds : (attending target context (AtHand event)).holds past situation) :
    (Session.consult target false).Reaches
      ((attending target context (AtHand event)).exits TargetError.isDisconnect)
      (attending target context (AtHand event)).afterEvent past situation := by
  have consulted : (attending target context (UnderConsultation event)).holds
      (past ++ [⟨situation, .consulted⟩]) situation :=
    ⟨holds.1.snoc (.consulted halts holds.2.2 holds.2.1),
      ⟨past, situation, [], rfl, holds.2.1, List.forall_mem_nil _⟩, holds.2.2⟩
  have atHand {log : List (Moment σ)} {after : Situation σ}
      (held : (attending target context (UnderConsultation event)).holds log after) :
      (attending target context (AtHand event)).holds log after :=
    ⟨held.1, held.2.1.atHand, held.2.2⟩
  refine ((serves halts).consult_reaches consulted).imp
    (fun _ _ _ owed => failed_imp atHand atHand owed) (fun _ waiting => waiting) ?_
  intro course log after held
  cases course with
  | goOn consulted => exact atHand held
  | finish reason => exact held

theorem receives : (attending target context (AtHand event)).Receives target context where
  toShows := shows (atHand_position event) halts
  locals := locals (atHand_position event) halts
  retireStep := (overlooks (atHand_position event) halts).retireStep
  consult holds := consult_reaches halts holds

end Attending

/-! ## Runs -/

/-- The regime of a whole run. -/
def attentive (target : Target σ) : Regime σ where
  holds log situation := Attentive target log ∧ Current log situation
  lost log situation := Attentive target log ∧ Current log situation
  left log _ := Attentive target log
  waiting := Attentive target

namespace Attentive

open Regime

variable {log : List (Moment σ)} {situation : Situation σ}

theorem say {line : String} (holds : (attentive target).holds log situation) :
    (attentive target).holds (log ++ [⟨situation, .said line⟩]) situation := by
  refine ⟨holds.1.snoc (.said holds.2), fun event context atHand halts => ?_⟩
  rcases atHand.of_snoc with impossible | ⟨atHand, _⟩
  · cases impossible
  · exact holds.2 event context atHand halts

theorem keepsAsk {request : Request} (drives : request.kind.drives = true) :
    (attentive target).Keeps TargetError.isDisconnect (Dialogue.ask target request) := by
  intro past situation holds
  have after : (attentive target).holds (past ++ [.asking target request situation])
      (situation.answered target request) := by
    refine ⟨holds.1.snoc (.driving drives), fun event context atHand halts => ?_⟩
    rcases atHand.of_snoc with impossible | ⟨_, lingers⟩
    · cases impossible
    · exact absurd (drives.symm.trans lingers) (by decide)
  exact Reaches.ask (fun _ _ => after) (fun _ _ => failed_of_both after after) fun _ => after.1

/-- The event that is turned to next may come with any halt on record; it brings its own. -/
theorem dispatch_reaches (consulted : Bool) {event : TargetEvent}
    (goesOn : event ≠ .disconnected) (attentive : Attentive target log) :
    (dispatch target consulted event).Reaches
      ((Session.attentive target).exits TargetError.isDisconnect)
      (Session.attentive target).afterEvent (log ++ [⟨situation, .turnedTo event⟩])
      situation := by
  have turned : Attentive target (log ++ [⟨situation, .turnedTo event⟩]) :=
    attentive.snoc .turnedTo
  cases halts : event.halt? with
  | none =>
      have nothing : Current (log ++ [⟨situation, .turnedTo event⟩]) situation := by
        intro second context atHand secondHalts
        cases atHand.unique (atHand_turnedTo situation)
        cases halts.symm.trans secondHalts
      cases event with
      | disconnected => exact absurd rfl goesOn
      | other => exact Act.reaches_pure.mpr ⟨turned, nothing⟩
      | _ => cases halts
  | some context =>
      have halted : (attending target context (AtHand event)).holds
          (log ++ [⟨situation, .turnedTo event⟩]) (situation.haltedAt context) :=
        ⟨turned, atHand_turnedTo situation, rfl⟩
      have onward {log : List (Moment σ)} {after : Situation σ}
          (held : (attending target context (AtHand event)).holds log after) :
          (Session.attentive target).holds log after :=
        ⟨held.1, held.2.1.current halts held.2.2⟩
      refine ((Attending.receives halts).dispatch_reaches consulted halts _ situation
        halted).imp (fun _ _ _ owed => failed_imp onward onward owed)
        (fun _ waiting => waiting) ?_
      intro course log after held
      cases course with
      | goOn consulted => exact onward held
      | finish reason => exact held

theorem drains : (attentive target).Drains target where
  say _ holds := say holds
  handle consulted _ _ _ goesOn holds := dispatch_reaches consulted goesOn holds.1
  nextEvents := keepsAsk rfl
  resume := keepsAsk rfl
  watch _ := keepsAsk rfl
  pause holds := holds.1

theorem of_ended {reason : SessionEnd}
    (ended : (attentive target).Ended reason log situation) : Attentive target log := by
  cases ended with
  | @reported log situation holds =>
      have nothing : Current (log ++ [⟨situation, .turnedTo .disconnected⟩]) situation := by
        intro event context atHand halts
        cases atHand.unique (atHand_turnedTo situation)
        cases halts
      have reported : Attentive target (log ++ [⟨situation, .turnedTo .disconnected⟩] ++
          [⟨situation, .said endNotice⟩]) := (holds.1.snoc .turnedTo).snoc (.said nothing)
      rwa [List.append_assoc] at reported
  | lost lost => exact lost.1.snoc (.said lost.2)
  | left left => exact left

end Attentive

theorem current_nil (situation : Situation σ) : Current [] situation := by
  rintro event context ⟨front, present, tail, impossible, _⟩
  cases front <;> cases impossible

/-- Throughout a run, and throughout a whole session, the halt on record is the one that the
event at hand has brought about, the operator is consulted about nothing else, the target is
asked about its thread and its class only, and variables are looked at only in the frame that
has just been found to be the innermost. -/
theorem inspection_follows_the_halt (target : Target σ) (rounds : Nat)
    (situation : Situation σ) :
    Attentive target ((run target rounds : Dialogue σ ε SessionEnd) situation).log ∧
      Attentive target (start target rounds situation).log := by
  have laws : (attentive target).Drains target := Attentive.drains
  have holds : (attentive target).holds [] situation :=
    ⟨attentive_nil target, current_nil situation⟩
  constructor
  · have attends : (run target rounds : Dialogue σ ε SessionEnd).Reaches
        (.anyway (Attentive target)) (fun _ log _ => Attentive target log) [] situation := by
      refine (laws.run_reaches rounds [] situation holds).imp ?_ (fun _ waiting => waiting) ?_
      · exact fun _ _ _ impossible => impossible.elim
      · exact fun _ _ _ ended => Attentive.of_ended ended
    exact Act.reaches_anyway.mp attends
  · have attends : (start target rounds).Reaches
        (.anyway (Attentive target)) (fun _ log _ => Attentive target log) [] situation := by
      refine (laws.start_reaches rounds [] situation holds).imp ?_ ?_ ?_
      · intro error log after owed
        rcases Regime.opening_failed.mp owed with ⟨_, lost⟩ | ⟨_, held⟩
        · exact lost.1
        · exact held.1
      · rintro log (waiting | ⟨before, last, left, rfl⟩)
        · exact waiting
        · exact Attentive.snoc left (.driving rfl)
      · intro reason log after released
        cases released with
        | released left => exact Attentive.snoc left (.driving rfl)
        | gone _ ended => exact Attentive.of_ended ended
    exact Act.reaches_anyway.mp attends

end Session
end LineDebugger
