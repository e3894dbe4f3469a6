import FederatedCatalog.Lookup.Basic
import FederatedCatalog.Tree.Compound

namespace FederatedCatalog.LookupState

/-- The end of a lookup for which a connector was called in vain. The connector is disabled if the
settings say so. -/
def giveUp (state : LookupState) (context : LookupContext) (schema connector : String)
    (failures : Exhausted) : LookupRun Unit :=
  let state := state.note (.loadFailed schema failures.last)
  if context.settings.autoDisable then
    let notice := Notice.disabling connector
    ⟨.error (.load ⟨schema, connector, failures, [notice.text]⟩),
      (state.note notice).disable context.lock? connector⟩
  else ⟨.error (.load ⟨schema, connector, failures, []⟩), state⟩

/-- Registers a connector's schemas, because `schema` was asked for. -/
def register (state : LookupState) (context : LookupContext) (schema : String)
    (connector : Connector) : LookupRun Unit :=
  let run := connector.retry context.settings context.interrupts
    (state.calls.of connector.serial)
  let state := { state with
    tree := run.grow connector.name state.tree
    calls := state.calls.set connector.serial run.calls
    trace := state.trace ++ run.trace }
  match run.outcome with
  | .ok _ => ⟨.ok (), state⟩
  | .error failures => state.giveUp context schema connector.name failures

/-- The root's child of that name, registered by its connector if it is not there. -/
def firstLevel (state : LookupState) (context : LookupContext) (schema outer : String)
    (connector : Connector) : LookupRun (Option NodeId) :=
  match state.tree.child? Tree.root outer with
  | some id => ⟨.ok (some id), state⟩
  | none =>
    (state.register context schema connector).andThen fun _ state =>
      match state.tree.child? Tree.root outer with
      | some id => ⟨.ok (some id), state⟩
      | none => ⟨.ok none, state.note (.notRegistered connector.name outer)⟩

/-- Makes the children of a first-level schema children of the root: all of them, or none if one of
them may not be. -/
def flatten (state : LookupState) (outer : String) (parent : NodeId) : LookupRun Unit :=
  match state.tree.uncompoundable? parent with
  | some (name, kind) =>
    ⟨.error (.unexpectedSchema (Tree.compoundName outer name) kind.typeName
      (state.tree.fullName parent)), state⟩
  | none => ⟨.ok (), { state with tree := state.tree.addCompounds outer parent }⟩

/-- Loads what serves a name: the connector of that name, or for two names with a dot between them
the connector of the first. -/
def load (state : LookupState) (context : LookupContext) (name : String) : LookupRun Unit :=
  match state.registry.enabled? name with
  | some connector => state.register context name connector
  | none =>
    match Path.dotted name with
    | [outer, _] =>
      match state.registry.enabled? outer with
      | none => ⟨.ok (), state⟩
      | some connector =>
        (state.firstLevel context name outer connector).andThen fun
          | none, state => ⟨.ok (), state⟩
          | some parent, state => state.flatten outer parent
    | _ => ⟨.ok (), state⟩

end FederatedCatalog.LookupState
