import LineDebugger.Debuggee.Remote
import LineDebugger.Proofs.Wire.Call

namespace LineDebugger

open Connection

/-!
# Calls and lookups, one at a time

A target behind a link does only two things with it: it puts a call, or it looks something
up, which is a call with a memory.  There are five kinds of lookup, and they differ in
nothing but the call that is put, the table that remembers the answer, and what is made of
the answer before it is remembered.  `Lookup` brings them under one roof, so that what is
said of lookups below is said once.

A lookup either recalls an answer, and then nothing else happens, or it puts its call.  What
it remembers is a successful answer and nothing else.
-/

/-! ## One call -/

namespace Debuggee
namespace Remote

variable {τ : Type}

/-- A call leaves one mark, and has no effect on what is remembered. -/
theorem call_eq (link : Link τ) (question : Wire.Call) (state : Remote τ) :
    call link question state
      = ⟨(question.verdict (link.send question.command state.link).outcome).mapError
            TargetError.ofFault,
          [link.mark question.command state.link],
          { state with link := (link.send question.command state.link).link }⟩ := by
  unfold call
  rw [Link.call_eq]

/-! ## One lookup -/

variable {α : Type} {find : Caches -> Option α} {store : α -> Caches -> Caches}
  {fetch : RemoteAct τ α} {state : Remote τ}

theorem lookUp_of_some {known : α} (found : find state.caches = some known) :
    lookUp find store fetch state = ⟨.ok known, [], state⟩ := by
  unfold lookUp
  simp only [bind, Act.andThen, Act.current, found]
  rfl

/-- The state once something has been fetched, or has failed to be. -/
def stored (store : α -> Caches -> Caches) (outcome : Outcome TargetError α) (state : Remote τ) :
    Remote τ :=
  match outcome with
  | .ok fetched => { state with caches := store fetched state.caches }
  | _ => state

theorem lookUp_of_none (missing : find state.caches = none) :
    lookUp find store fetch state
      = ⟨(fetch state).outcome, (fetch state).log,
          stored store (fetch state).outcome (fetch state).state⟩ := by
  unfold lookUp
  simp only [bind, Act.andThen, Act.current, missing, List.nil_append]
  cases (fetch state).outcome with
  | ok fetched => simp only [remember, Act.update, pure, Act.done, List.append_nil, stored]
  | failed error => rfl
  | unfinished => rfl

end Remote

/-! ## The kinds of lookup -/

/-- A lookup with its key. -/
inductive Lookup where
  | typeName (type : UInt64)
  | methods (type : UInt64)
  | fields (type : UInt64)
  | lineTable (type method : UInt64)
  | variableTable (type method : UInt64)
  deriving DecidableEq, Repr

namespace Lookup

/-- The call that a lookup puts. -/
@[reducible] def call : Lookup -> Wire.Call
  | .typeName type => .signature type
  | .methods type => .methods type
  | .fields type => .fields type
  | .lineTable type method => .lineTable type method
  | .variableTable type method => .variableTable type method

/-- What is looked up has the type of the answer that it is made from. -/
@[reducible] def Answer (lookup : Lookup) : Type := lookup.call.Answer

/-- What is made of an answer.  Of a signature it is the name of the type. -/
def settle : (lookup : Lookup) -> lookup.Answer -> lookup.Answer
  | .typeName _, (signature : String) => TypeName.ofSignature signature
  | .methods _, found | .fields _, found | .lineTable .., found | .variableTable .., found =>
      found

/-- What is remembered under the key. -/
def find : (lookup : Lookup) -> Caches -> Option lookup.Answer
  | .typeName type, caches => caches.typeNames.lookup type
  | .methods type, caches => caches.methods.lookup type
  | .fields type, caches => caches.fields.lookup type
  | .lineTable type method, caches => caches.lineTables.lookup (type, method)
  | .variableTable type method, caches => caches.variableTables.lookup (type, method)

/-- Remember something under the key. -/
def store : (lookup : Lookup) -> lookup.Answer -> Caches -> Caches
  | .typeName type, name, caches => Remote.storeTypeName type name caches
  | .methods type, found, caches =>
      { caches with methods := (type, found) :: caches.methods }
  | .fields type, found, caches => { caches with fields := (type, found) :: caches.fields }
  | .lineTable type method, found, caches =>
      { caches with lineTables := ((type, method), found) :: caches.lineTables }
  | .variableTable type method, found, caches =>
      { caches with variableTables := ((type, method), found) :: caches.variableTables }

/-- The lookup as the target performs it. -/
def act {τ : Type} (link : Link τ) : (lookup : Lookup) -> Remote.RemoteAct τ lookup.Answer
  | .typeName type => Remote.typeName link type
  | .methods type => Remote.methods link type
  | .fields type => Remote.fields link type
  | .lineTable type method => Remote.lineTable link type method
  | .variableTable type method => Remote.variableTable link type method

private theorem lookup_cons_of_ne {κ α : Type} [BEq κ] [LawfulBEq κ] {key other : κ}
    (different : other ≠ key) (value : α) (entries : List (κ × α)) :
    ((key, value) :: entries).lookup other = entries.lookup other := by
  rw [List.lookup_cons, beq_false_of_ne different]

/-- Nothing is remembered yet. -/
theorem find_fresh (lookup : Lookup) : lookup.find {} = none := by
  cases lookup <;> rfl

theorem find_store (lookup : Lookup) (found : lookup.Answer) (caches : Caches) :
    lookup.find (lookup.store found caches) = some found := by
  cases lookup <;> exact List.lookup_cons_self

/-- What is remembered under one key has no effect on another. -/
theorem find_store_of_ne {lookup other : Lookup} (different : other ≠ lookup)
    (found : lookup.Answer) (caches : Caches) :
    other.find (lookup.store found caches) = other.find caches := by
  cases lookup <;> cases other <;> first
    | rfl
    | exact lookup_cons_of_ne (by intro same; apply different; cases same; rfl) _ _

/-! ## How a lookup goes -/

variable {τ : Type}

/-- An answer that is remembered is given at once. -/
theorem act_of_recalled {lookup : Lookup} {state : Remote τ} {known : lookup.Answer}
    (recalled : lookup.find state.caches = some known) (link : Link τ) :
    lookup.act link state = ⟨.ok known, [], state⟩ := by
  cases lookup <;> exact Remote.lookUp_of_some recalled

/-- What is remembered after a call has come to something. -/
def learn (lookup : Lookup) : Outcome Wire.Fault lookup.Answer -> Caches -> Caches
  | .ok answer, caches => lookup.store (lookup.settle answer) caches
  | _, caches => caches

/-- An answer that is not remembered is asked for, and remembered if there is one. -/
theorem act_of_forgotten {lookup : Lookup} {state : Remote τ}
    (forgotten : lookup.find state.caches = none) (link : Link τ) :
    lookup.act link state
      = ⟨((lookup.call.verdict (link.send lookup.call.command state.link).outcome).map
            lookup.settle).mapError TargetError.ofFault,
          [link.mark lookup.call.command state.link],
          ⟨(link.send lookup.call.command state.link).link,
            lookup.learn (lookup.call.verdict
              (link.send lookup.call.command state.link).outcome) state.caches⟩⟩ := by
  cases lookup with
  | typeName type =>
      refine (Remote.lookUp_of_none forgotten).trans ?_
      simp only [bind, Act.andThen]
      rw [Remote.call_eq]
      cases Wire.Call.verdict _ _ <;> rfl
  | _ =>
      refine (Remote.lookUp_of_none forgotten).trans ?_
      rw [Remote.call_eq]
      cases Wire.Call.verdict _ _ <;> rfl

end Lookup
end Debuggee
end LineDebugger
