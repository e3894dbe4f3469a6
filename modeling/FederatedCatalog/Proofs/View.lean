import FederatedCatalog.Catalog
import FederatedCatalog.Proofs.Content

namespace FederatedCatalog

structure TableView where
  name : String
  type : TableType
  content : TableContent
  definition? : Option String
  deriving DecidableEq

def TableEntry.view (entry : TableEntry) : TableView :=
  ⟨entry.name, entry.table.type, entry.table.content, entry.definition?⟩

structure NodeView where
  fullName : String
  typeName : String
  targetName : String
  children : List String
  tables : List TableView
  deriving DecidableEq

/-- The tables below a node. -/
def Tree.tables (tree : Tree) (id : NodeId) : NameMap TableEntry :=
  ((tree.node? (tree.follow id)).map Node.tables).getD []

def Tree.view? (tree : Tree) (id : NodeId) : Option NodeView :=
  (tree.node? id).map fun node =>
    ⟨tree.fullName id, node.kind.typeName, tree.fullName (tree.follow id), (tree.children id).keys,
      (tree.tables id).map fun table => table.2.view⟩

inductive FoundView
  | node (view? : Option (Option NodeView))
  | table (view? : Option TableView)
  deriving DecidableEq

def Found.view (tree : Tree) : Found → FoundView
  | .node id? => .node (id?.map tree.view?)
  | .table found? => .table (found?.map TableEntry.view)

/-- What is seen of the answer of a lookup. -/
def LookupRun.view (run : LookupRun Found) : Except LookupError FoundView :=
  run.answer.map fun found => found.view run.after.tree

/-- Two contents have the same kind of schema at a path, and tables that look the same. -/
def Content.AlikeAt (first second : Content) (path : List String) : Prop :=
  first.kind path = second.kind path ∧ ∀ name,
    (first.table path name).map TableEntry.view = (second.table path name).map TableEntry.view

namespace Content.AlikeAt

variable {first second third : Content} {path : List String}

theorem symm (h : first.AlikeAt second path) : second.AlikeAt first path :=
  ⟨h.1.symm, fun name => (h.2 name).symm⟩

theorem trans (h : first.AlikeAt second path) (h' : second.AlikeAt third path) :
    first.AlikeAt third path :=
  ⟨h.1.trans h'.1, fun name => (h.2 name).trans (h'.2 name)⟩

end Content.AlikeAt

theorem Content.ofLists_alikeAt {schemas : List (List String × NodeKind)}
    {tables tables' : List (List String × TableEntry)}
    (h : tables.map (fun table => (table.1, table.2.view)) =
      tables'.map fun table => (table.1, table.2.view)) (path : List String) :
    (ofLists schemas tables).AlikeAt (ofLists schemas tables') path := by
  refine ⟨rfl, ?_⟩
  intro name
  have seen : ∀ list : List (List String × TableEntry),
      ((ofLists schemas list).table path name).map TableEntry.view =
        ((list.map fun table => (table.1, table.2.view)).find? fun table =>
          table.1.map Text.lower = path ∧ table.2.name = name).map Prod.snd := by
    intro list
    simp only [ofLists, List.find?_map, Option.map_map, Function.comp_def, TableEntry.view]
  rw [seen tables, seen tables', h]

end FederatedCatalog
