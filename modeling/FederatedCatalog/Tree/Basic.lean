import FederatedCatalog.NameMap
import FederatedCatalog.Table
import FederatedCatalog.Text.Casing

namespace FederatedCatalog

abbrev NodeId := Nat

inductive NodeKind
  | root
  /-- A schema that a connector registered. -/
  | schema (connector : String)
  /-- A second name for a schema further down. -/
  | compound (target : NodeId)
  /-- A schema of a type that the catalog does not know. -/
  | foreign (typeName : String)
  deriving DecidableEq

def NodeKind.typeName : NodeKind → String
  | root => "ROOT"
  | schema _ => "CONNECTOR"
  | compound _ => "COMPOUND"
  | foreign typeName => typeName

structure Node where
  id : NodeId
  name : String
  parent? : Option NodeId
  kind : NodeKind
  children : NameMap NodeId
  tables : NameMap TableEntry
  deriving DecidableEq

namespace Node

def target? (node : Node) : Option NodeId :=
  match node.kind with
  | .compound target => some target
  | _ => none

/-- A table of the node itself. A table of exactly this name comes first; unless case matters, the
first one whose name differs in case only comes next. -/
def table? (node : Node) (name : String) (caseSensitive : Bool) : Option TableEntry :=
  match node.tables.get? name with
  | some entry => some entry
  | none =>
    if caseSensitive then none
    else
      (node.tables.find? fun entry => Text.lower entry.1 = Text.lower name).map Prod.snd

theorem table?_exact (node : Node) (name : String) :
    node.table? name true = node.tables.get? name := by
  unfold table?
  cases node.tables.get? name <;> rfl

end Node

structure Tree where
  nodes : Array Node
  deriving DecidableEq

namespace Tree

def root : NodeId :=
  0

def rootName : String :=
  ""

/-- The tree that holds the root only. -/
def bare : Tree :=
  ⟨#[⟨root, rootName, none, .root, [], []⟩]⟩

def size (tree : Tree) : Nat :=
  tree.nodes.size

def node? (tree : Tree) (id : NodeId) : Option Node :=
  tree.nodes[id]?

def isBare (tree : Tree) : Bool :=
  tree.size = 1

def followFrom (tree : Tree) : Nat → NodeId → NodeId
  | 0, id => id
  | steps + 1, id =>
    match (tree.node? id).bind Node.target? with
    | some target => followFrom tree steps target
    | none => id

/-- The node that holds what is below `id`: from a compound node to its target, until a node is no
compound. -/
def follow (tree : Tree) (id : NodeId) : NodeId :=
  tree.followFrom tree.size id

def ownChild? (tree : Tree) (parent : NodeId) (name : String) : Option NodeId :=
  (tree.node? parent).bind fun node => node.children.get? (Text.lower name)

def child? (tree : Tree) (parent : NodeId) (name : String) : Option NodeId :=
  tree.ownChild? (tree.follow parent) name

/-- The children below a node, with their names in increasing order. -/
def children (tree : Tree) (parent : NodeId) : NameMap NodeId :=
  ((tree.node? (tree.follow parent)).map Node.children).getD []

def table? (tree : Tree) (parent : NodeId) (name : String) (caseSensitive : Bool) :
    Option TableEntry :=
  (tree.node? (tree.follow parent)).bind fun node => node.table? name caseSensitive

def walk? (tree : Tree) : NodeId → List String → Option NodeId
  | id, [] => some id
  | id, name :: rest => (tree.child? id name).bind fun child => tree.walk? child rest

def lineageFrom (tree : Tree) : Nat → NodeId → List String
  | 0, _ => []
  | steps + 1, id =>
    match tree.node? id with
    | none => []
    | some node =>
      match node.parent? with
      | none => []
      | some parent => lineageFrom tree steps parent ++ [node.name]

/-- The names from below the root down to the node. -/
def lineage (tree : Tree) (id : NodeId) : List String :=
  tree.lineageFrom tree.size id

def fullName (tree : Tree) (id : NodeId) : String :=
  ".".intercalate (tree.lineage id)

end Tree

end FederatedCatalog
