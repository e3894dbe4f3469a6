import FederatedCatalog.Lookup.Find

namespace FederatedCatalog

/-- A user's view of the catalog: what has been loaded into it stays in it. -/
structure Session where
  tree : Tree
  settings : Settings

structure Catalog where
  settings : Settings
  registry : Registry
  aliases : Aliases
  calls : CallCounts
  sessions : Array Session
  /-- The aliases that lookups go by in place of the catalog's own, if there are any. -/
  substitute? : Option Aliases
  /-- Why sessions can not enable or disable connectors, if they can not. -/
  lock? : Option String
  /-- Which waits of a registration are cut short. -/
  interrupts : Nat → Bool

/-- What a session may be asked for. -/
inductive Question
  | child (name : String) (caseSensitive : Bool)
  | childOf (parent : NodeId) (name : String) (caseSensitive : Bool)
  | path (target : Path) (caseSensitive : Bool)
  | aliasedTable (name : String) (caseSensitive : Bool)
  | table (name : String) (caseSensitive : Bool)
  deriving DecidableEq

inductive Found
  | node (id? : Option NodeId)
  | table (found? : Option TableEntry)
  deriving DecidableEq

def Question.ask (context : LookupContext) (state : LookupState) : Question → LookupRun Found
  | child name caseSensitive =>
    (state.findChild context name caseSensitive).read fun id? _ => .node id?
  | childOf parent name caseSensitive =>
    (state.findChildOf context parent name caseSensitive).read fun id? _ => .node id?
  | path target caseSensitive =>
    (state.findPath context target caseSensitive).read fun id? _ => .node id?
  | aliasedTable name caseSensitive =>
    (state.findAliasedTable context name caseSensitive).read fun found? _ => .table found?
  | table name caseSensitive =>
    (state.findTable context name caseSensitive).read fun found? _ => .table found?

inductive Operation
  | ask (session : Nat) (question : Question)
  /-- Opens a session, with the catalog's settings if none are given. -/
  | openSession (settings? : Option Settings)
  | register (connector : Connector) (enabled : Bool)
  | remove (name : String)
  | setEnabled (name : String) (enabled : Bool)
  /-- Enables or disables a connector on behalf of a session. -/
  | sessionSetEnabled (name : String) (enabled : Bool)
  | addAlias (kind : AliasKind) (owner? : Option String) (name target : String)
  | removeAlias (kind : AliasKind) (owner? : Option String) (name : String)

inductive Answer
  | found (result : Except LookupError Found)
  | noSession
  | opened (session : Nat)
  | registryChanged (result : Except RegistryError Unit)
  | removed (result : Except RegistryError Connector)
  | aliasAdded (result : Except AliasError Unit)
  | aliasRemoved (there : Bool)

namespace Catalog

def empty (settings : Settings) : Catalog where
  settings := settings
  registry := .empty
  aliases := .empty
  calls := .zero
  sessions := #[]
  substitute? := none
  lock? := none
  interrupts := fun _ => false

def context (catalog : Catalog) (session : Session) : LookupContext where
  settings := session.settings
  aliases := (catalog.substitute?.getD catalog.aliases).source
  lock? := catalog.lock?
  interrupts := catalog.interrupts

def state (catalog : Catalog) (session : Session) : LookupState where
  tree := session.tree
  registry := catalog.registry
  calls := catalog.calls
  trace := #[]

/-- The catalog after a lookup of the session of that number. -/
def resume (catalog : Catalog) (number : Nat) (after : LookupState) : Catalog :=
  { catalog with
    registry := after.registry
    calls := after.calls
    sessions := catalog.sessions.modify number fun session => { session with tree := after.tree } }

def ask (catalog : Catalog) (number : Nat) (question : Question) : Answer × Trace × Catalog :=
  match catalog.sessions[number]? with
  | none => (.noSession, #[], catalog)
  | some session =>
    let run := question.ask (catalog.context session) (catalog.state session)
    (.found run.answer, run.after.trace, catalog.resume number run.after)

def openSession (catalog : Catalog) (settings : Settings) : Catalog :=
  { catalog with sessions := catalog.sessions.push ⟨.bare, settings⟩ }

/-- The catalog with the registry that an operation left, or as it was if the operation failed. -/
def withRegistry (catalog : Catalog) :
    Except RegistryError Registry → Except RegistryError Unit × Catalog
  | .ok registry => (.ok (), { catalog with registry })
  | .error error => (.error error, catalog)

def perform (catalog : Catalog) : Operation → Answer × Trace × Catalog
  | .ask session question => catalog.ask session question
  | .openSession settings? =>
    (.opened catalog.sessions.size, #[], catalog.openSession (settings?.getD catalog.settings))
  | .register connector enabled =>
    let (result, after) := catalog.withRegistry (catalog.registry.register connector enabled)
    (.registryChanged result, #[], after)
  | .setEnabled name enabled =>
    let (result, after) := catalog.withRegistry (catalog.registry.setEnabled name enabled)
    (.registryChanged result, #[], after)
  | .sessionSetEnabled name enabled =>
    let (result, after) :=
      catalog.withRegistry (catalog.registry.setEnabledUnder catalog.lock? name enabled)
    (.registryChanged result, #[], after)
  | .remove name =>
    match catalog.registry.remove name with
    | .ok (connector, registry) => (.removed (.ok connector), #[], { catalog with registry })
    | .error error => (.removed (.error error), #[], catalog)
  | .addAlias kind owner? name target =>
    match catalog.aliases.add kind owner? name target with
    | .ok aliases => (.aliasAdded (.ok ()), #[], { catalog with aliases })
    | .error error => (.aliasAdded (.error error), #[], catalog)
  | .removeAlias kind owner? name =>
    let (there, aliases) := catalog.aliases.remove kind owner? name
    (.aliasRemoved there, #[], { catalog with aliases })

end Catalog

end FederatedCatalog
