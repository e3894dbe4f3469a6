import FederatedCatalog.Lookup.Loading

namespace FederatedCatalog.LookupState

/-- A child of the root, loaded if it is not there. -/
def findSchema (state : LookupState) (context : LookupContext) (name : String) :
    LookupRun (Option NodeId) :=
  let key := Text.lower name
  match state.tree.child? Tree.root key with
  | some id => ⟨.ok (some id), state.note (.cached key)⟩
  | none => (state.load context key).read fun _ tree => tree.child? Tree.root key

/-- A name below the root: an alias of the user, or else a child of the root. Case never matters for
schemas; whether it matters for tables is only reported. -/
def findChild (state : LookupState) (context : LookupContext) (name : String)
    (caseSensitive : Bool) : LookupRun (Option NodeId) :=
  let state := state.note (.resolving name caseSensitive)
  match context.aliases.namespaceAlias context.settings.user name with
  | none => state.findSchema context name
  | some target =>
    match Path.parse target with
    | .error cause => ⟨.error (.invalidAlias .namespaces name target cause), state⟩
    | .ok path =>
      ((state.note (.schemaAlias name path)).findSchema context path.first).read fun id? tree =>
        id?.bind fun id => tree.walk? id path.rest

def findChildOf (state : LookupState) (context : LookupContext) (parent : NodeId) (name : String)
    (caseSensitive : Bool) : LookupRun (Option NodeId) :=
  if parent = Tree.root then state.findChild context name caseSensitive
  else ⟨.ok (state.tree.child? parent name), state⟩

def walk (state : LookupState) (context : LookupContext) (caseSensitive : Bool) (id : NodeId) :
    List String → LookupRun (Option NodeId)
  | [] => ⟨.ok (some id), state⟩
  | name :: rest =>
    (state.findChildOf context id name caseSensitive).andThen fun
      | none, state => ⟨.ok none, state⟩
      | some next, state => state.walk context caseSensitive next rest

def findPath (state : LookupState) (context : LookupContext) (path : Path) (caseSensitive : Bool) :
    LookupRun (Option NodeId) :=
  state.walk context caseSensitive Tree.root path.segments

/-- The table that an alias of the user stands for. -/
def findAliasedTable (state : LookupState) (context : LookupContext) (name : String)
    (caseSensitive : Bool) : LookupRun (Option TableEntry) :=
  match context.aliases.tableAlias context.settings.user name with
  | none => ⟨.ok none, state⟩
  | some target =>
    match Path.parse target with
    | .error cause => ⟨.error (.invalidAlias .tables name target cause), state⟩
    | .ok path =>
      ((state.note (.tableAlias name path)).walk context caseSensitive Tree.root path.parents).read
        fun id? tree => id?.bind fun id => tree.table? id path.last caseSensitive

/-- A table below the root: one that an alias stands for, under the alias's name, or else a table of
the root's own of exactly this name. -/
def findTable (state : LookupState) (context : LookupContext) (name : String)
    (caseSensitive : Bool) : LookupRun (Option TableEntry) :=
  (state.findAliasedTable context name caseSensitive).read fun found? tree =>
    match found? with
    | some entry => some (entry.renamed name)
    | none => tree.table? Tree.root name true

end FederatedCatalog.LookupState
