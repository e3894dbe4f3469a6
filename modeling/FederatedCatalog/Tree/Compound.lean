import FederatedCatalog.Tree.Growth

namespace FederatedCatalog.Tree

def compoundName (outer inner : String) : String :=
  outer ++ "." ++ inner

def isCompoundable : NodeKind → Bool
  | .schema _ => true
  | .compound _ => true
  | _ => false

def uncompoundable? (tree : Tree) (parent : NodeId) : Option (String × NodeKind) :=
  (tree.children parent).findSome? fun entry =>
    match tree.node? entry.2 with
    | some node => if isCompoundable node.kind then none else some (entry.1, node.kind)
    | none => none

def addCompounds (tree : Tree) (outer : String) (parent : NodeId) : Tree :=
  (tree.children parent).foldl
    (fun tree entry => (tree.ensureChild root (compoundName outer entry.1) (.compound entry.2)).1)
    tree

end FederatedCatalog.Tree
