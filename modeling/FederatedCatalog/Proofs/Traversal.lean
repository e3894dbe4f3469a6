import FederatedCatalog.Proofs.Merge

namespace FederatedCatalog.Tree

/-- From a node to its parent and so on until there is none, with the names on the way. -/
inductive Climbs (tree : Tree) : NodeId → List String → Prop
  | top {id : NodeId} {node : Node} (found : tree.node? id = some node)
      (none : node.parent? = none) : Climbs tree id []
  | up {id parent : NodeId} {node : Node} {names : List String} (found : tree.node? id = some node)
      (above : node.parent? = some parent) (rest : Climbs tree parent names) :
      Climbs tree id (names ++ [node.name])

/-- From a node to its target and so on until there is none, with the number of steps. -/
inductive Follows (tree : Tree) : NodeId → Nat → NodeId → Prop
  | stay {id : NodeId} {node : Node} (found : tree.node? id = some node)
      (none : node.target? = none) : Follows tree id 0 id
  | step {id target last : NodeId} {node : Node} {steps : Nat} (found : tree.node? id = some node)
      (compound : node.target? = some target) (rest : Follows tree target steps last) :
      Follows tree id (steps + 1) last

mutual

/-- What becomes of a tree when what is below a node of another tree is added below one of its own.
-/
inductive MergesBelow (staging : Tree) : NodeId → NodeId → Tree → Tree → Prop
  | node {stagedParent parent last : NodeId} {node within : Node} {steps : Nat} {tree after : Tree}
      (found : staging.node? stagedParent = some node) (there : parent < tree.size)
      (follows : staging.Follows stagedParent steps last) (below : staging.node? last = some within)
      (rest : MergesEach staging within.children parent
        (tree.addTables parent (node.tables.map Prod.snd)) after) :
      MergesBelow staging stagedParent parent tree after

/-- What becomes of a tree when children of another tree's node are added to one of its own. -/
inductive MergesEach (staging : Tree) : NameMap NodeId → NodeId → Tree → Tree → Prop
  | nil {parent : NodeId} {tree : Tree} : MergesEach staging [] parent tree tree
  | cons {entry : String × NodeId} {rest : NameMap NodeId} {parent : NodeId} {child : Node}
      {tree mid after : Tree} (found : staging.node? entry.2 = some child)
      (inside : MergesBelow staging entry.2 (tree.ensureChild parent child.name child.kind).2
        (tree.ensureChild parent child.name child.kind).1 mid)
      (others : MergesEach staging rest parent mid after) :
      MergesEach staging (entry :: rest) parent tree after

end

variable {tree : Tree}

theorem Sound.climbs (sound : tree.Sound) {id : NodeId} (h : id < tree.size) :
    tree.Climbs id (tree.lineage id) := by
  -- a parent has a smaller number than its children
  induction id using Nat.strongRecOn with
  | ind id ih =>
    obtain ⟨node, hnode⟩ := node?_of_lt h
    by_cases hroot : id = root
    · subst hroot
      rw [sound.lineage_root]
      exact .top hnode (sound.of_root hnode).1
    · obtain ⟨parent, above, hparent, hlt, habove, _⟩ := sound.parented hnode hroot
      rw [sound.lineage_of_parent? hnode hparent]
      exact .up hnode hparent (ih parent hlt (node?_lt habove))

theorem Sound.follows_compound (sound : tree.Sound) {id target : NodeId} {node : Node}
    (h : tree.node? id = some node) (hk : node.kind = .compound target) :
    tree.Follows id 1 target := by
  obtain ⟨_, _, inner, _, _, _, hinner, hschema, _⟩ := sound.wrapped h hk
  have hgo : node.target? = some target := by simp [Node.target?, hk]
  have hstop : inner.target? = none := by simp [Node.target?, hschema]
  exact .step h hgo (.stay hinner hstop)

theorem follows_of_kind {id : NodeId} {node : Node} (h : tree.node? id = some node)
    (hk : ∀ target, node.kind ≠ .compound target) : tree.Follows id 0 id :=
  .stay h (target?_eq_none hk)

theorem Sound.follows (sound : tree.Sound) {id : NodeId} (h : id < tree.size) :
    ∃ steps, steps ≤ 1 ∧ tree.Follows id steps (tree.follow id) := by
  obtain ⟨node, hnode⟩ := node?_of_lt h
  rcases sound.follow_cases hnode with ⟨target, _, _, hk, heq, _⟩ | ⟨hk, heq⟩
  · rw [heq]
    exact ⟨1, Nat.le_refl 1, sound.follows_compound hnode hk⟩
  · rw [heq]
    exact ⟨0, Nat.zero_le 1, follows_of_kind hnode hk⟩

section Merge

variable {staging : Tree}

/-- What is said of the recursion of a merge, if no more than `depth` levels are there. -/
def MergeEnds (staging : Tree) (depth : Nat) : Prop :=
  ∀ ⦃stagedParent parent : NodeId⦄ ⦃tree : Tree⦄ ⦃path : List String⦄, tree.Sound →
    staging.locate? path = some stagedParent → tree.locate? path = some parent →
    staging.size ≤ depth + stagedParent →
    staging.MergesBelow stagedParent parent tree
      (mergeFrom staging depth stagedParent parent tree)

theorem foldl_mergeChild_ends {depth : Nat} (ends : staging.MergeEnds depth)
    (staged : staging.Sound) (plain : staging.Plain) {parent : NodeId} {path : List String}
    (sound : tree.Sound) (hparent : tree.locate? path = some parent) {entries : NameMap NodeId}
    (hentries : ∀ entry ∈ entries, staging.locate? (path ++ [entry.1]) = some entry.2 ∧
      staging.size ≤ depth + entry.2) :
    staging.MergesEach entries parent tree
      (entries.foldl (mergeChild staging depth parent) tree) := by
  induction entries generalizing tree with
  | nil => exact .nil
  | cons entry rest ih =>
    obtain ⟨hchild, hdepth⟩ := hentries entry (by simp)
    obtain ⟨child, hnode, opened, hopened⟩ := mergeChild_opens staged plain sound hparent hchild
    have inside := ends (sound.of_grown opened.grown) hchild hopened hdepth
    have first := mergeChild_gains (mergeFrom_gains staged plain depth) staged plain sound hparent
      hchild hdepth
    have others := ih (sound.of_grown first.grown) (first.grown.keeps.locate? hparent)
      fun other hm => hentries other (List.mem_cons_of_mem entry hm)
    refine .cons hnode ?_ others
    simpa only [mergeChild, hnode] using inside

theorem mergeFrom_ends (staged : staging.Sound) (plain : staging.Plain) (depth : Nat) :
    staging.MergeEnds depth := by
  induction depth with
  | zero =>
    intro stagedParent parent tree path _ hstaged _ hdepth
    have hlt := (staged.locate?_eq_some_iff.mp hstaged).1
    rw [Nat.zero_add] at hdepth
    exact absurd hlt (Nat.not_lt.mpr hdepth)
  | succ depth ih =>
    intro stagedParent parent tree path sound hstaged hparent hdepth
    obtain ⟨node, hnode⟩ := staged.locate?_node hstaged
    have hlower := sound.map_lower_of_locate? hparent
    have tables := addTables_gains sound (by rw [hlower]; exact hparent)
      (node.tables.map Prod.snd)
    have rest := foldl_mergeChild_ends ih staged plain (sound.of_grown tables.grown)
      (tables.grown.keeps.locate? hparent) (staged.entries_within hstaged hnode hdepth)
    -- without compound nodes the children are the node's own
    rw [mergeFrom_succ hnode, children_of_kind hnode (plain hnode)]
    exact .node hnode (sound.locate?_eq_some_iff.mp hparent).1
      (follows_of_kind hnode (plain hnode)) hnode rest

/-- The recursion of a merge ends, and with the merged tree. -/
theorem merge_ends (sound : tree.Sound) (staged : staging.Sound) (plain : staging.Plain) :
    staging.MergesBelow root root tree (tree.merge staging) := by
  have hstaged : staging.locate? [] = some root := rfl
  have hroot : tree.locate? [] = some root := rfl
  exact mergeFrom_ends staged plain staging.size sound hstaged hroot (Nat.le_add_right _ _)

end Merge

end FederatedCatalog.Tree
