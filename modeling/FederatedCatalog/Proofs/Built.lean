import FederatedCatalog.Proofs.Compound
import FederatedCatalog.Proofs.Reached
import FederatedCatalog.Proofs.Traversal
import FederatedCatalog.Proofs.Walk

namespace FederatedCatalog

namespace Tree

/-- The trees that connectors make on their own. There are no compound nodes among what they can
make. -/
inductive Staging : Tree → Prop
  | bare : Staging .bare
  | add {tree : Tree} {parent : NodeId} (made : Staging tree) (connector : String)
      (there : parent < tree.size) (additions : List Addition) :
      Staging (addAll connector parent tree additions)
  | merge {tree staging : Tree} (made : Staging tree) (other : Staging staging) :
      Staging (tree.merge staging)

/-- The trees that come about by additions to any node, by merges of what connectors made on their
own, and by compound nodes for the children of a dotless schema below the root. -/
inductive Built : Tree → Prop
  | bare : Built .bare
  | add {tree : Tree} {parent : NodeId} (built : Built tree) (connector : String)
      (there : parent < tree.size) (additions : List Addition) :
      Built (addAll connector parent tree additions)
  | merge {tree staging : Tree} (built : Built tree) (made : Staging staging) :
      Built (tree.merge staging)
  | flatten {tree : Tree} {outer : String} {parent : NodeId} (built : Built tree)
      (dotless : Undotted outer) (lowered : Text.lower outer = outer)
      (found : tree.child? root outer = some parent)
      (compoundable : tree.uncompoundable? parent = none) : Built (tree.addCompounds outer parent)

variable {tree staging : Tree}

theorem Sound.addAll_gains (sound : tree.Sound) (connector : String) {parent : NodeId}
    (there : parent < tree.size) (additions : List Addition) :
    tree.Gains (addAll connector parent tree additions)
      (.ofAdditions connector (tree.lineage parent) additions) := by
  have hparent := sound.locate?_lineage there
  exact Tree.addAll_gains connector sound
    (by rw [sound.map_lower_of_locate? hparent]; exact hparent) additions

theorem Plain.content (plain : tree.Plain) (path : List String) (target : NodeId) :
    tree.content.kind path ≠ some (.compound target) := by
  intro h
  obtain ⟨id, node, _, hnode, hkind⟩ := content_kind_eq_some.mp h
  exact plain hnode target hkind

theorem Gains.plain {after : Tree} {gain : Content} (gains : tree.Gains after gain)
    (sound : tree.Sound) (plain : tree.Plain)
    (none : ∀ path target, gain.kind path ≠ some (.compound target)) : after.Plain := by
  intro id node hnode target hkind
  have compound : after.kindOf? id = some (.compound target) := by
    rw [kindOf?, hnode, Option.map_some, hkind]
  obtain ⟨old, hold, hsame⟩ :=
    Option.map_eq_some_iff.mp ((gains.compound_iff sound none).mp compound)
  exact plain hold target hsame

theorem plain_bare : bare.Plain :=
  plain_staged "" []

theorem Staging.sound_plain (made : tree.Staging) : tree.Sound ∧ tree.Plain := by
  induction made with
  | bare => exact ⟨sound_bare, plain_bare⟩
  | add made connector there additions ih =>
    have gains := ih.1.addAll_gains connector there additions
    exact ⟨ih.1.of_grown gains.grown,
      gains.plain ih.1 ih.2 (ofAdditions_not_compound connector _ additions)⟩
  | merge made other ih ihOther =>
    have gains := merge_gains ih.1 ihOther.1 ihOther.2
    exact ⟨ih.1.of_grown gains.grown, gains.plain ih.1 ih.2 ihOther.2.content⟩

theorem Built.sound (built : tree.Built) : tree.Sound := by
  induction built with
  | bare => exact sound_bare
  | add built connector there additions ih =>
    exact ih.of_grown (ih.addAll_gains connector there additions).grown
  | merge built made ih =>
    obtain ⟨staged, plain⟩ := made.sound_plain
    exact ih.of_grown (merge_gains ih staged plain).grown
  | flatten built dotless lowered found compoundable ih =>
    rw [child?_root ih, lowered] at found
    exact ih.of_grown (addCompounds_gains ih found dotless compoundable).grown

end Tree

theorem LookupState.Step.built {context : LookupContext} {state after : LookupState}
    (step : Step context state after) (built : state.tree.Built) : after.tree.Built := by
  cases step with
  | quiet quiet =>
    cases quiet with
    | note notice => exact built
    | flatten dotless lowered found compoundable =>
      exact built.flatten dotless lowered found compoundable
  | register schema lowered free serves =>
    rename_i name connector
    obtain ⟨last, _, _, _, ⟨_, _, _, htree⟩ | ⟨_, _, htree⟩⟩ :=
      state.register_cases context schema connector
    · rw [htree]
      exact built.merge (.add .bare connector.name (Nat.lt_add_one 0) _)
    · rw [htree]
      exact built

theorem Tree.Reached.built {tree : Tree} (reached : tree.Reached) : tree.Built := by
  induction reached with
  | bare => exact .bare
  | ask reached context question ih =>
    have steps := (@LookupState.ask_course _ context reached.sound question).steps
    generalize (question.ask context _).after = after at steps
    induction steps with
    | refl => exact ih
    | tail _ step earlier => exact step.built earlier

namespace Tree

variable {tree : Tree}

/-- The links between the nodes of a tree, as they should be. -/
structure WellFormed (tree : Tree) : Prop where
  numbered : ∀ {id node}, tree.node? id = some node → node.id = id
  rooted : root < tree.size
  orphan_iff : ∀ {id node}, tree.node? id = some node → (node.parent? = none ↔ id = root)
  root_iff : ∀ {id node}, tree.node? id = some node → (node.kind = .root ↔ id = root)
  parented : ∀ {id node parent}, tree.node? id = some node → node.parent? = some parent →
    parent < id ∧ ∃ above, tree.node? parent = some above ∧
      above.children.get? node.name = some id
  listed : ∀ {id node entry}, tree.node? id = some node → entry ∈ node.children →
    ∃ below, tree.node? entry.2 = some below ∧ below.name = entry.1 ∧ below.parent? = some id
  aimed : ∀ {id node target}, tree.node? id = some node → node.kind = .compound target →
    target < tree.size
  lowered : ∀ {id node}, tree.node? id = some node → Text.lower node.name = node.name
  titled : ∀ {id node entry}, tree.node? id = some node → entry ∈ node.tables →
    entry.2.name = entry.1
  children_sorted : ∀ id, (tree.children id).Sorted
  children_lowered : ∀ {id entry}, entry ∈ tree.children id → Text.lower entry.1 = entry.1
  child?_iff : ∀ {id}, id < tree.size → ∀ name child,
    tree.child? (tree.follow id) name = some child ↔ (Text.lower name, child) ∈ tree.children id

theorem Sound.child?_iff (sound : tree.Sound) {id : NodeId} (there : id < tree.size)
    (name : String) (child : NodeId) : tree.child? (tree.follow id) name = some child ↔
      (Text.lower name, child) ∈ tree.children id := by
  obtain ⟨node, hnode⟩ := node?_of_lt (sound.follow_lt there)
  have hchildren : tree.children id = node.children := by
    rw [children, hnode, Option.map_some, Option.getD_some]
  rw [child?, sound.follow_follow there, ownChild?, hnode, Option.bind_some, hchildren]
  exact ⟨NameMap.mem_of_get?, NameMap.get?_of_mem (sound.ordered hnode).1⟩

theorem Sound.mem_children (sound : tree.Sound) {id : NodeId} {entry : String × NodeId}
    (h : entry ∈ tree.children id) : ∃ above below, tree.node? (tree.follow id) = some above ∧
      above.children.get? entry.1 = some entry.2 ∧ tree.node? entry.2 = some below ∧
      below.name = entry.1 := by
  unfold children at h
  cases hnode : tree.node? (tree.follow id) with
  | none =>
    rw [hnode] at h
    cases h
  | some above =>
    rw [hnode] at h
    have hget := NameMap.get?_of_mem (sound.ordered hnode).1 h
    obtain ⟨below, hbelow, hname, _⟩ := sound.listed hnode hget
    exact ⟨above, below, rfl, hget, hbelow, hname⟩

theorem Sound.wellFormed (sound : tree.Sound) : tree.WellFormed where
  numbered := sound.numbered
  rooted := sound.root_lt
  orphan_iff := by
    intro id node h
    by_cases hroot : id = root
    · subst hroot
      exact iff_of_true (sound.of_root h).1 rfl
    · obtain ⟨parent, _, hparent, _⟩ := sound.parented h hroot
      exact iff_of_false (by rw [hparent]; exact Option.some_ne_none parent) hroot
  root_iff := by
    intro id node h
    refine ⟨sound.rootOnly h, ?_⟩
    rintro rfl
    exact (sound.of_root h).2
  parented := sound.of_parent?
  listed := by
    intro id node entry h hm
    exact sound.listed h (NameMap.get?_of_mem (sound.ordered h).1 hm)
  aimed := fun h compound => (sound.wrapped h compound).2.2.lt
  lowered := sound.lowered
  titled := by
    intro id node entry h hm
    exact sound.titled h (NameMap.get?_of_mem (sound.ordered h).2 hm)
  children_sorted := sound.sorted_children
  children_lowered := by
    intro id entry hm
    obtain ⟨_, below, _, _, hbelow, hname⟩ := sound.mem_children hm
    rw [← hname]
    exact sound.lowered hbelow
  child?_iff := sound.child?_iff

/-- The loops over a tree end: the climb to the root, and the recursion of a merge into the tree. -/
structure LoopsEnd (tree : Tree) : Prop where
  climbs : ∀ {id}, id < tree.size → ∃ names, tree.Climbs id names ∧
    tree.fullName id = ".".intercalate names
  merges : ∀ {staging : Tree}, staging.Staging →
    staging.MergesBelow root root tree (tree.merge staging)

theorem Sound.loopsEnd (sound : tree.Sound) : tree.LoopsEnd where
  climbs := fun there => ⟨_, sound.climbs there, rfl⟩
  merges := fun made => merge_ends sound made.sound_plain.1 made.sound_plain.2

/-- The root is not what is found by any lookup. -/
structure HidesRoot (tree : Tree) : Prop where
  child : ∀ {parent name id}, tree.child? parent name = some id → id ≠ root
  children : ∀ {parent entry}, entry ∈ tree.children parent → entry.2 ≠ root
  follow : ∀ {id}, id < tree.size → id ≠ root → tree.follow id ≠ root
  walk : ∀ {start name rest id}, tree.walk? start (name :: rest) = some id → id ≠ root
  ask : ∀ {context : LookupContext} {state : LookupState} {question : Question} {id : NodeId},
    state.tree = tree → (question.ask context state).answer = .ok (.node (some id)) → id ≠ root

end Tree

section Ask

variable {context : LookupContext} {state : LookupState} {question : Question} {id : NodeId}

theorem Question.along_ne_root (sound : state.tree.Sound) {path : Path}
    (hnames : question.names? = some path)
    (h : (question.ask context state).answer = .ok (.node (some id))) : id ≠ Tree.root := by
  have after : (question.ask context state).after.tree.Sound :=
    (LookupState.ask_course sound question).steps.sound sound
  obtain ⟨first, hfirst, hrest⟩ :=
    Option.bind_eq_some_iff.mp (Question.ask_found sound hnames h)
  exact after.walk?_ne_root (after.named?_ne_root hfirst) hrest

theorem Question.ask_ne_root (sound : state.tree.Sound)
    (h : (question.ask context state).answer = .ok (.node (some id))) : id ≠ Tree.root := by
  cases question with
  | child name caseSensitive => exact along_ne_root sound rfl h
  | path target caseSensitive => exact along_ne_root sound rfl h
  | childOf parent name caseSensitive =>
    by_cases hroot : parent = Tree.root
    · have same : (childOf parent name caseSensitive).ask context state =
          (child name caseSensitive).ask context state := by
        simp only [ask, LookupState.findChildOf, if_pos hroot]
      rw [same] at h
      exact along_ne_root sound rfl h
    · obtain ⟨id?, hchild, heq⟩ := LookupRun.read_ok h
      cases Found.node.inj heq
      rw [LookupState.findChildOf, if_neg hroot] at hchild
      exact sound.child?_ne_root (Except.ok.inj hchild)
  | aliasedTable name caseSensitive =>
    obtain ⟨_, _, heq⟩ := LookupRun.read_ok h
    cases heq
  | table name caseSensitive =>
    obtain ⟨_, _, heq⟩ := LookupRun.read_ok h
    cases heq

end Ask

namespace Tree

variable {tree : Tree}

theorem Sound.hidesRoot (sound : tree.Sound) : tree.HidesRoot where
  child := sound.child?_ne_root
  children := by
    intro parent entry hm
    obtain ⟨above, _, habove, hget, _⟩ := sound.mem_children hm
    exact Nat.ne_of_gt (Nat.zero_lt_of_lt (sound.child_lt habove hget))
  follow := sound.follow_ne_root
  walk := by
    intro start name rest id h
    obtain ⟨child, hchild, hrest⟩ := Option.bind_eq_some_iff.mp h
    exact sound.walk?_ne_root (sound.child?_ne_root hchild) hrest
  ask := by
    rintro context state question id rfl h
    exact Question.ask_ne_root sound h

/-- However a tree comes about, the links between its nodes are in order. So the loops over it end,
and no lookup finds the root. -/
theorem Built.tree_in_order (built : tree.Built) :
    tree.WellFormed ∧ tree.LoopsEnd ∧ tree.HidesRoot :=
  ⟨built.sound.wellFormed, built.sound.loopsEnd, built.sound.hidesRoot⟩

/-- A schema with one schema below it. -/
def nestedFiles : Tree :=
  addAll "dfs" root bare [.schema "DFS" none [.schema "Tmp" none []]]

/-- Then compound nodes are made, something is added below one, and something is merged there. -/
def overgrown : Tree :=
  (addAll "other" 3 (nestedFiles.addCompounds "dfs" 1) [.schema "Inner" none []]).merge
    (staged "other" [.schema "dfs.tmp" none [.schema "Outer" none []]])

theorem overgrown_wellFormed : overgrown.Built ∧ overgrown.kindOf? 3 = some (.compound 2) ∧
    overgrown.size = 6 ∧ overgrown.WellFormed ∧ overgrown.LoopsEnd ∧ overgrown.HidesRoot := by
  have alone : root < bare.size := by decide
  have files : nestedFiles.Built := .add .bare "dfs" alone _
  have child : nestedFiles.child? root "dfs" = some 1 := by decide +kernel
  have flattened := files.flatten (by decide) (by decide +kernel) child (by decide +kernel)
  have there : 3 < (nestedFiles.addCompounds "dfs" 1).size := by decide +kernel
  have built : overgrown.Built :=
    (flattened.add "other" there [.schema "Inner" none []]).merge (.add .bare "other" alone _)
  exact ⟨built, by decide +kernel, by decide +kernel, built.tree_in_order⟩

end Tree

end FederatedCatalog
