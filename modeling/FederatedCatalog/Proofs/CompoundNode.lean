import FederatedCatalog.Connector.Script
import FederatedCatalog.Proofs.Reached
import FederatedCatalog.Proofs.Traversal
import FederatedCatalog.Proofs.Walk

namespace FederatedCatalog

namespace Tree

variable {tree : Tree}

theorem Sound.fullName_follow (sound : tree.Sound) {id : NodeId} (there : id < tree.size) :
    tree.fullName (tree.follow id) = tree.fullName id := by
  rcases sound.lineage_follow there with ⟨outer, inner, _, _, hpath, htarget, _⟩ | ⟨_, heq⟩
  · rw [fullName, fullName, hpath, htarget]
    rfl
  · rw [heq]

/-- A node stands for another one, a schema that a connector registered below a dotless child of the
root. Its name is made of the two names, and it takes one step to get to the other node. -/
structure StandsFor (tree : Tree) (id target : NodeId) (node : Node) : Prop where
  at_root : node.parent? = some root
  earlier : target < id
  second_level : ∃ (inner : Node) (outer : NodeId) (above : Node) (connector : String),
    tree.node? target = some inner ∧ inner.kind = .schema connector ∧
      inner.parent? = some outer ∧ tree.node? outer = some above ∧ above.parent? = some root ∧
      Undotted above.name ∧ node.name = compoundName above.name inner.name
  follows : tree.Follows id 1 target
  settled : tree.Follows target 0 target
  follow_eq : tree.follow id = target
  fullName_eq : tree.fullName id = tree.fullName target

theorem Sound.standsFor (sound : tree.Sound) {id target : NodeId} {node : Node}
    (found : tree.node? id = some node) (compound : node.kind = .compound target) :
    tree.StandsFor id target node := by
  obtain ⟨hroot, hlt, inner, outer, above, connector, hinner, hschema, hup, habove, htop, hdot,
    hname⟩ := sound.wrapped found compound
  have follow := sound.follow_of_compound found compound
  have same := sound.fullName_follow (node?_lt found)
  rw [follow] at same
  exact {
    at_root := hroot
    earlier := hlt
    second_level :=
      ⟨inner, outer, above, connector, hinner, hschema, hup, habove, htop, hdot, hname⟩
    follows := sound.follows_compound found compound
    settled := follows_of_kind hinner (by simp [hschema])
    follow_eq := follow
    fullName_eq := same.symm }

/-- In the tree of a session every compound node stands for a schema two levels down. From any node
the way along compound nodes ends after one step at most, and then there is no further step. -/
theorem Reached.compounds_wrap (reached : tree.Reached) :
    (∀ {id node target}, tree.node? id = some node → node.kind = .compound target →
      tree.StandsFor id target node) ∧
    ∀ {id}, id < tree.size →
      (∃ steps, steps ≤ 1 ∧ tree.Follows id steps (tree.follow id)) ∧
      tree.follow (tree.follow id) = tree.follow id :=
  ⟨reached.sound.standsFor, fun there =>
    ⟨reached.sound.follows there, reached.sound.follow_follow there⟩⟩

/-- The tree of a session that has asked for a schema by a name of two levels. -/
def tmpTree : Tree :=
  let connector := Connector.scripted 0 "dfs" [⟨[⟨["dfs", "tmp"], none, []⟩], none⟩]
  let catalog := (Catalog.empty .immediate).run [.register connector true]
  let session := Session.mk .bare .immediate
  ((Question.child "dfs.tmp" false).ask (catalog.context session) (catalog.state session)).after.tree

theorem tmpTree_wraps : ∃ node, tmpTree.node? 3 = some node ∧ node.kind = .compound 2 ∧
    tmpTree.StandsFor 3 2 node ∧ tmpTree.follow (tmpTree.follow 3) = tmpTree.follow 3 := by
  have reached : tmpTree.Reached := .ask .bare _ (.child "dfs.tmp" false)
  have there : (tmpTree.node? 3).map Node.kind = some (.compound 2) := by decide +kernel
  obtain ⟨node, found, compound⟩ := Option.map_eq_some_iff.mp there
  obtain ⟨wraps, settles⟩ := reached.compounds_wrap
  exact ⟨node, found, compound, wraps found compound, (settles (node?_lt found)).2⟩

end Tree

end FederatedCatalog
