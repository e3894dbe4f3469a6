import FederatedCatalog.Connector.Script
import FederatedCatalog.Proofs.Merge
import FederatedCatalog.Proofs.Reached
import Mathlib.Data.Fin.Pigeonhole
import Mathlib.Logic.Equiv.Defs

namespace FederatedCatalog

/-- A node with other numbers for itself, its parent and its children. What a compound node leads to
keeps its number. -/
def Node.renumbered (number : NodeId → NodeId) (node : Node) : Node where
  id := number node.id
  name := node.name
  parent? := node.parent?.map number
  kind := node.kind
  children := node.children.map fun entry => (entry.1, number entry.2)
  tables := node.tables

namespace Tree

/-- The second tree is the first one with other numbers for the nodes that are new since an earlier
tree. -/
structure Renumbers (before first second : Tree) (number : Equiv.Perm NodeId) : Prop where
  kept : ∀ id < before.size, number id = id
  size : second.size = first.size
  node : ∀ id, second.node? (number id) = (first.node? id).map (Node.renumbered number)

def renumber (first second : Tree) (id : NodeId) : NodeId :=
  if id < first.size then (second.locate? (first.lineage id)).getD id else id

section SameContent

variable {first second : Tree} (sound : first.Sound) (sound' : second.Sound)

include sound in
theorem renumber_of_locate? {path : List String} {id id' : NodeId}
    (h : first.locate? path = some id) (h' : second.locate? path = some id') :
    renumber first second id = id' := by
  obtain ⟨hlt, hlineage⟩ := sound.locate?_eq_some_iff.mp h
  simp [renumber, hlt, hlineage, h']

variable (same : first.content = second.content)

include sound sound' same

theorem locate?_renumber (path : List String) :
    second.locate? path = (first.locate? path).map (renumber first second) := by
  have hnone : first.locate? path = none ↔ second.locate? path = none := by
    rw [← sound.content_kind_eq_none, ← sound'.content_kind_eq_none, same]
  cases h : first.locate? path with
  | none => exact hnone.mp h
  | some id =>
    obtain ⟨id', h'⟩ : ∃ id', second.locate? path = some id' := by
      rw [← Option.ne_none_iff_exists', Ne, ← hnone, h]
      exact Option.some_ne_none id
    rw [h', Option.map_some, renumber_of_locate? sound h h']

theorem locate?_lineage_renumber {id : NodeId} (h : id < first.size) :
    second.locate? (first.lineage id) = some (renumber first second id) := by
  rw [locate?_renumber sound sound' same, sound.locate?_lineage h, Option.map_some]

theorem lineage_renumber {id : NodeId} (h : id < first.size) :
    renumber first second id < second.size ∧
      second.lineage (renumber first second id) = first.lineage id :=
  sound'.locate?_eq_some_iff.mp (locate?_lineage_renumber sound sound' same h)

theorem renumber_renumber {id : NodeId} (h : id < first.size) :
    renumber second first (renumber first second id) = id :=
  renumber_of_locate? sound' (locate?_lineage_renumber sound sound' same h)
    (sound.locate?_lineage h)

theorem size_le_of_content : first.size ≤ second.size := by
  apply Fin.le_of_injective fun id : Fin first.size =>
    (⟨renumber first second id, (lineage_renumber sound sound' same id.isLt).1⟩ : Fin second.size)
  intro id other h
  have heq := congrArg (renumber second first) (Fin.val_eq_of_eq h)
  rw [renumber_renumber sound sound' same id.isLt,
    renumber_renumber sound sound' same other.isLt] at heq
  exact Fin.ext heq

theorem size_eq_of_content : first.size = second.size :=
  Nat.le_antisymm (size_le_of_content sound sound' same)
    (size_le_of_content sound' sound same.symm)

theorem renumber_cancel (id : NodeId) : renumber second first (renumber first second id) = id := by
  by_cases h : id < first.size
  · exact renumber_renumber sound sound' same h
  · have h' : ¬id < second.size := by
      rw [← size_eq_of_content sound sound' same]
      exact h
    simp [renumber, h, h']

def renumbering : Equiv.Perm NodeId where
  toFun := renumber first second
  invFun := renumber second first
  left_inv := renumber_cancel sound sound' same
  right_inv := renumber_cancel sound' sound same.symm

section Node

variable {id : NodeId} {node node' : Node} (hnode : first.node? id = some node)
  (hnode' : second.node? (renumber first second id) = some node')

include hnode hnode'

theorem renumber_parent : node'.name = node.name ∧
    node'.parent? = node.parent?.map (renumber first second) := by
  obtain ⟨hlt', hlineage⟩ := lineage_renumber sound sound' same (node?_lt hnode)
  by_cases hroot : id = root
  · subst hroot
    obtain ⟨top, hfirst, hname, hparent, _⟩ := sound.rooted
    cases Option.some.inj (hfirst.symm.trans hnode)
    have htop : first.locate? [] = some root := rfl
    have hroot : renumber first second root = root := renumber_of_locate? sound htop rfl
    rw [hroot] at hnode'
    obtain ⟨top', hsecond, hname', hparent', _⟩ := sound'.rooted
    cases Option.some.inj (hsecond.symm.trans hnode')
    rw [hname, hname', hparent, hparent']
    exact ⟨rfl, rfl⟩
  · obtain ⟨up, above, hup, _, habove, _⟩ := sound.parented hnode hroot
    rw [sound.lineage_of_parent? hnode hup] at hlineage
    have hroot' : renumber first second id ≠ root := by
      intro eq
      rw [eq, sound'.lineage_root] at hlineage
      simp at hlineage
    obtain ⟨up', above', hup', _, habove', _⟩ := sound'.parented hnode' hroot'
    rw [sound'.lineage_of_parent? hnode' hup'] at hlineage
    -- The names down to the parents are those down to the nodes less the last one.
    obtain ⟨hlineageUp, hnames⟩ := List.append_inj' hlineage rfl
    have hlocate := sound'.locate?_lineage (node?_lt habove')
    rw [hlineageUp] at hlocate
    rw [hup, hup', Option.map_some,
      renumber_of_locate? sound (sound.locate?_lineage (node?_lt habove)) hlocate]
    exact ⟨List.singleton_inj.mp hnames, rfl⟩

theorem renumber_node : node' = node.renumbered (renumber first second) := by
  have hpath := sound.locate?_lineage (node?_lt hnode)
  have hpath' := locate?_lineage_renumber sound sound' same (node?_lt hnode)
  obtain ⟨hname, hparent⟩ := renumber_parent sound sound' same hnode hnode'
  have hid : node'.id = renumber first second node.id := by
    rw [sound.numbered hnode, sound'.numbered hnode']
  have hkind : node'.kind = node.kind := by
    have hcontent := content_kind_of_locate? hpath' hnode'
    rw [← same, content_kind_of_locate? hpath hnode] at hcontent
    exact (Option.some.inj hcontent).symm
  have hchildren : node'.children =
      node.children.map fun entry => (entry.1, renumber first second entry.2) := by
    apply NameMap.ext_of_sorted (sound'.ordered hnode').1
      (NameMap.sorted_map_value (renumber first second) (sound.ordered hnode).1)
    intro key
    have hkey := locate?_renumber sound sound' same (first.lineage id ++ [key])
    rw [locate?_concat, locate?_concat, hpath, hpath'] at hkey
    rw [NameMap.get?_map_value]
    simpa [hnode, hnode'] using hkey
  have htables : node'.tables = node.tables := by
    apply NameMap.ext_of_sorted (sound'.ordered hnode').2 (sound.ordered hnode).2
    intro name
    rw [← content_table_of_locate? hpath' hnode', ← same, content_table_of_locate? hpath hnode]
  cases node'
  simp only at hname hparent hid hkind hchildren htables
  rw [hname, hparent, hid, hkind, hchildren, htables]
  rfl

end Node

theorem node?_renumber (id : NodeId) : second.node? (renumber first second id) =
    (first.node? id).map (Node.renumbered (renumber first second)) := by
  by_cases h : id < first.size
  · obtain ⟨node, hnode⟩ := node?_of_lt h
    obtain ⟨node', hnode'⟩ := node?_of_lt (lineage_renumber sound sound' same h).1
    rw [hnode, hnode', Option.map_some, renumber_node sound sound' same hnode hnode']
  · have h' : second.size ≤ id := by
      rw [← size_eq_of_content sound sound' same]
      exact Nat.not_lt.mp h
    have hid : renumber first second id = id := by simp [renumber, h]
    have hnone : first.node? id = none := Array.getElem?_eq_none (Nat.not_lt.mp h)
    have hnone' : second.node? id = none := Array.getElem?_eq_none h'
    rw [hid, hnone, hnone', Option.map_none]

/-- Two trees that come about from one and have the same content differ in the numbers of new nodes
only. -/
theorem exists_renumbering {before : Tree} (earlier : before.Sound) (keeps : before.Keeps first)
    (keeps' : before.Keeps second) : ∃ number, before.Renumbers first second number := by
  refine ⟨renumbering sound sound' same, ?_, (size_eq_of_content sound sound' same).symm,
    node?_renumber sound sound' same⟩
  intro id h
  have hpath := earlier.locate?_lineage h
  exact renumber_of_locate? sound (keeps.locate? hpath) (keeps'.locate? hpath)

end SameContent

/-- A connector's additions come to the same whether they are made below the root of a tree or in a
tree of their own that is then merged into it. Every node of the tree keeps its number and what is
entered in it, at every path there is a node of the same kind with the same tables, and nodes differ
in the numbers of new ones only. -/
theorem Reached.merge_staged_renumbers {tree : Tree} (reached : tree.Reached) (connector : String)
    (additions : List Addition) :
    tree.Keeps (tree.merge (staged connector additions)) ∧
    tree.Keeps (addAll connector root tree additions) ∧
    (tree.merge (staged connector additions)).content =
      (addAll connector root tree additions).content ∧
    ∃ number, tree.Renumbers (addAll connector root tree additions)
      (tree.merge (staged connector additions)) number := by
  have sound := reached.sound
  have hroot : tree.locate? (List.map Text.lower []) = some root := rfl
  have direct := addAll_gains connector sound hroot additions
  have merged := register_gains sound connector additions
  have same : (addAll connector root tree additions).content =
      (tree.merge (staged connector additions)).content := by
    rw [direct.content, merged.content]
  exact ⟨merged.grown.keeps, direct.grown.keeps, same.symm,
    exists_renumbering (sound.of_grown direct.grown) (sound.of_grown merged.grown) same sound
      direct.grown.keeps merged.grown.keeps⟩

def filesTree : Tree :=
  let connector := Connector.scripted 0 "dfs" [⟨[⟨["dfs"], none, []⟩], none⟩]
  let catalog := (Catalog.empty .immediate).run [.register connector true]
  let session := Session.mk .bare .immediate
  ((Question.child "dfs" false).ask (catalog.context session) (catalog.state session)).after.tree

/-- Additions that open the schema of the files again, between two that are new. -/
def scattered : List Addition :=
  [.schema "z" none [], .schema "DFS" (some "FOREIGN") [.schema "tmp" none []],
    .schema "a" none []]

/-- New nodes are numbered in the order of the additions or in the order of their names. -/
theorem filesTree_merge_scattered :
    (addAll "other" root filesTree scattered).locate? ["z"] = some 2 ∧
    (filesTree.merge (staged "other" scattered)).locate? ["z"] = some 4 ∧
    ∃ number, filesTree.Renumbers (addAll "other" root filesTree scattered)
      (filesTree.merge (staged "other" scattered)) number := by
  have reached : filesTree.Reached := .ask .bare _ (.child "dfs" false)
  refine ⟨by decide +kernel, by decide +kernel, ?_⟩
  exact (reached.merge_staged_renumbers "other" scattered).2.2.2

end Tree

end FederatedCatalog
