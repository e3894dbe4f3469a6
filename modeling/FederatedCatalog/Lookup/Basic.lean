import FederatedCatalog.Lookup.Error

namespace FederatedCatalog

/-- What a lookup goes by and leaves as it is. -/
structure LookupContext where
  settings : Settings
  aliases : AliasSource
  /-- Why connectors can not be enabled or disabled, if they can not. -/
  lock? : Option String
  /-- Which waits of a registration are cut short. -/
  interrupts : Nat → Bool

/-- What a lookup works on and may change. -/
structure LookupState where
  tree : Tree
  registry : Registry
  calls : CallCounts
  trace : Trace

/-- A lookup that has come to its end: its answer, or the error that ended it, and the state that it
leaves in either case. -/
structure LookupRun (α : Type) where
  answer : Except LookupError α
  after : LookupState

namespace LookupRun

variable {α β : Type}

/-- The run that goes on with the answer. An error ends it. -/
def andThen (run : LookupRun α) (next : α → LookupState → LookupRun β) : LookupRun β :=
  match run with
  | ⟨.ok answer, after⟩ => next answer after
  | ⟨.error error, after⟩ => ⟨.error error, after⟩

/-- The run with its answer read against the tree that it leaves. -/
def read (run : LookupRun α) (value : α → Tree → β) : LookupRun β :=
  ⟨run.answer.map fun answer => value answer run.after.tree, run.after⟩

@[simp] theorem andThen_ok (answer : α) (after : LookupState)
    (next : α → LookupState → LookupRun β) :
    andThen ⟨.ok answer, after⟩ next = next answer after := rfl

@[simp] theorem andThen_error (error : LookupError) (after : LookupState)
    (next : α → LookupState → LookupRun β) :
    andThen ⟨.error error, after⟩ next = ⟨.error error, after⟩ := rfl

end LookupRun

namespace LookupState

def record (state : LookupState) (event : Event) : LookupState :=
  { state with trace := state.trace.push event }

def note (state : LookupState) (notice : Notice) : LookupState :=
  state.record (.notice notice)

/-- The state with a connector disabled, or with a note why it can not be disabled. -/
def disable (state : LookupState) (lock? : Option String) (name : String) : LookupState :=
  let state := state.record (.disableAsked name)
  match state.registry.setEnabledUnder lock? name false with
  | .ok registry => { state with registry }
  | .error error => state.note (.notDisabled name error)

end LookupState

end FederatedCatalog
