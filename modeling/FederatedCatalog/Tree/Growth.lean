import FederatedCatalog.Tree.Basic

namespace FederatedCatalog

/-- What a connector does with a node it is handed: it adds tables, and it opens schemas and adds to
those in turn. -/
inductive Addition
  | table (entry : TableEntry)
  | schema (name : String) (foreignType? : Option String) (inside : List Addition)

namespace Tree

def addChild (tree : Tree) (parent : NodeId) (key : String) (kind : NodeKind) : Tree :=
  let id := tree.size
  ⟨(tree.nodes.push ⟨id, key, some parent, kind, [], []⟩).modify parent fun node =>
    { node with children := node.children.put key id }⟩

/-- The child of that name, which is made if the node has none. -/
def ensureChild (tree : Tree) (parent : NodeId) (name : String) (kind : NodeKind) : Tree × NodeId :=
  match tree.node? parent with
  | none => (tree, parent)
  | some node =>
    match node.children.get? (Text.lower name) with
    | some id => (tree, id)
    | none => (tree.addChild parent (Text.lower name) kind, tree.size)

/-- Adds a table to a node unless the node has one of exactly its name. -/
def addTable (tree : Tree) (parent : NodeId) (entry : TableEntry) : Tree :=
  ⟨tree.nodes.modify parent fun node =>
    { node with tables := node.tables.putNew entry.name entry }⟩

def addTables (tree : Tree) (parent : NodeId) (entries : List TableEntry) : Tree :=
  entries.foldl (fun tree entry => tree.addTable parent entry) tree

def openedKind (connector : String) : Option String → NodeKind
  | some typeName => .foreign typeName
  | none => .schema connector

mutual

def add (connector : String) (parent : NodeId) (tree : Tree) : Addition → Tree
  | .table entry => tree.addTable parent entry
  | .schema name foreignType? inside =>
    let opened := tree.ensureChild parent name (openedKind connector foreignType?)
    addAll connector opened.2 opened.1 inside

def addAll (connector : String) (parent : NodeId) (tree : Tree) : List Addition → Tree
  | [] => tree
  | addition :: rest => addAll connector parent (add connector parent tree addition) rest

end

/-- The tree of a connector's additions alone. -/
def staged (connector : String) (additions : List Addition) : Tree :=
  addAll connector root bare additions

def mergeFrom (staging : Tree) : Nat → NodeId → NodeId → Tree → Tree
  | 0, _, _, tree => tree
  | depth + 1, stagedParent, parent, tree =>
    match staging.node? stagedParent with
    | none => tree
    | some node =>
      (staging.children stagedParent).foldl
        (fun tree entry =>
          match staging.node? entry.2 with
          | none => tree
          | some child =>
            let opened := tree.ensureChild parent child.name child.kind
            mergeFrom staging depth entry.2 opened.2 opened.1)
        (tree.addTables parent (node.tables.map Prod.snd))

/-- The tree with everything below the other tree's root added below its own, children in order of
their names and each with all that is below it. -/
def merge (tree staging : Tree) : Tree :=
  mergeFrom staging staging.size root root tree

end Tree

end FederatedCatalog
