import FederatedCatalog.Proofs.TreeGrowth

namespace FederatedCatalog.Tree

/-- From a node along children of its own and of theirs. -/
def seek (tree : Tree) : NodeId → List String → Option NodeId
  | id, [] => some id
  | id, key :: rest =>
    ((tree.node? id).bind fun node => node.children.get? key).bind fun child => tree.seek child rest

/-- The node at a path from the root. -/
def locate? (tree : Tree) (path : List String) : Option NodeId :=
  tree.seek root path

theorem seek_append (tree : Tree) (id : NodeId) (first second : List String) :
    tree.seek id (first ++ second) = (tree.seek id first).bind fun mid => tree.seek mid second := by
  induction first generalizing id with
  | nil => rfl
  | cons key rest ih =>
    simp only [List.cons_append, seek, Option.bind_assoc]
    congr 1
    funext child
    simp only [ih]

theorem seek_singleton (tree : Tree) (id : NodeId) (key : String) :
    tree.seek id [key] = (tree.node? id).bind fun node => node.children.get? key := by
  simp [seek]

theorem locate?_append (tree : Tree) (first second : List String) :
    tree.locate? (first ++ second) = (tree.locate? first).bind fun mid => tree.seek mid second :=
  seek_append tree root first second

theorem locate?_concat (tree : Tree) (path : List String) (key : String) :
    tree.locate? (path ++ [key]) = (tree.locate? path).bind fun id =>
      (tree.node? id).bind fun node => node.children.get? key := by
  simp only [locate?, seek_append, seek_singleton]

namespace Sound

variable {tree : Tree}

theorem root_lt (sound : tree.Sound) : root < tree.size := by
  obtain ⟨top, htop, _⟩ := sound.rooted
  exact node?_lt htop

theorem of_root (sound : tree.Sound) {node : Node} (h : tree.node? root = some node) :
    node.parent? = none ∧ node.kind = .root := by
  obtain ⟨top, htop, _, hnone, hkind⟩ := sound.rooted
  cases Option.some.inj (htop.symm.trans h)
  exact ⟨hnone, hkind⟩

theorem of_parent? (sound : tree.Sound) {id parent : NodeId} {node : Node}
    (h : tree.node? id = some node) (hp : node.parent? = some parent) :
    parent < id ∧ ∃ above, tree.node? parent = some above ∧
      above.children.get? node.name = some id := by
  have hne : id ≠ root := by
    rintro rfl
    rw [(sound.of_root h).1] at hp
    cases hp
  obtain ⟨up, above, hup, hlt, habove, hlisted⟩ := sound.parented h hne
  cases Option.some.inj (hup.symm.trans hp)
  exact ⟨hlt, above, habove, hlisted⟩

theorem child_lt (sound : tree.Sound) {id child : NodeId} {node : Node} {key : String}
    (h : tree.node? id = some node) (hc : node.children.get? key = some child) : id < child := by
  obtain ⟨below, hbelow, _, hparent⟩ := sound.listed h hc
  exact (sound.of_parent? hbelow hparent).1

theorem lineageFrom_congr (sound : tree.Sound) {id steps steps' : Nat} (h : id < steps)
    (h' : id < steps') : tree.lineageFrom steps id = tree.lineageFrom steps' id := by
  induction id using Nat.strongRecOn generalizing steps steps' with
  | ind id ih =>
    obtain ⟨left, rfl⟩ : ∃ left, steps = left + 1 := ⟨steps - 1, by omega⟩
    obtain ⟨left', rfl⟩ : ∃ left', steps' = left' + 1 := ⟨steps' - 1, by omega⟩
    unfold lineageFrom
    cases hnode : tree.node? id with
    | none => rfl
    | some node =>
      cases hparent : node.parent? with
      | none => simp only [hparent]
      | some parent =>
        have hlt : parent < id := (sound.of_parent? hnode hparent).1
        simp only [hparent]
        rw [ih parent hlt (Nat.lt_of_lt_of_le hlt (Nat.le_of_lt_succ h))
          (Nat.lt_of_lt_of_le hlt (Nat.le_of_lt_succ h'))]

theorem lineage_root (sound : tree.Sound) : tree.lineage root = [] := by
  obtain ⟨top, htop, _, hnone, _⟩ := sound.rooted
  unfold lineage
  cases tree.size with
  | zero => rfl
  | succ steps => simp [lineageFrom, htop, hnone]

theorem lineage_of_parent? (sound : tree.Sound) {id parent : NodeId} {node : Node}
    (h : tree.node? id = some node) (hp : node.parent? = some parent) :
    tree.lineage id = tree.lineage parent ++ [node.name] := by
  have hlt := node?_lt h
  have hparent := (sound.of_parent? h hp).1
  unfold lineage
  cases hs : tree.size with
  | zero => rw [hs] at hlt; exact absurd hlt (Nat.not_lt_zero id)
  | succ steps =>
    rw [hs] at hlt
    have heq : tree.lineageFrom steps parent = tree.lineageFrom (steps + 1) parent :=
      sound.lineageFrom_congr (Nat.lt_of_lt_of_le hparent (Nat.le_of_lt_succ hlt))
        (Nat.lt_trans hparent hlt)
    simp only [lineageFrom, h, hp] at heq ⊢
    rw [heq]

theorem lineage_of_seek (sound : tree.Sound) {start id : NodeId} {path : List String}
    (hstart : start < tree.size) (h : tree.seek start path = some id) :
    id < tree.size ∧ tree.lineage id = tree.lineage start ++ path := by
  induction path generalizing start with
  | nil =>
    cases Option.some.inj h
    exact ⟨hstart, by simp⟩
  | cons key rest ih =>
    obtain ⟨child, hchild, hrest⟩ := Option.bind_eq_some_iff.mp h
    obtain ⟨node, hnode, hget⟩ := Option.bind_eq_some_iff.mp hchild
    obtain ⟨below, hbelow, hname, hparent⟩ := sound.listed hnode hget
    obtain ⟨hlt, hlineage⟩ := ih (node?_lt hbelow) hrest
    refine ⟨hlt, ?_⟩
    rw [hlineage, sound.lineage_of_parent? hbelow hparent, hname]
    simp

theorem locate?_lineage (sound : tree.Sound) {id : NodeId} (h : id < tree.size) :
    tree.locate? (tree.lineage id) = some id := by
  induction id using Nat.strongRecOn with
  | ind id ih =>
    by_cases hroot : id = root
    · subst hroot
      rw [sound.lineage_root]
      rfl
    · obtain ⟨node, hnode⟩ := node?_of_lt h
      obtain ⟨parent, above, hparent, hlt, habove, hlisted⟩ := sound.parented hnode hroot
      rw [sound.lineage_of_parent? hnode hparent, locate?_concat, ih parent hlt (node?_lt habove)]
      simp [habove, hlisted]

/-- Nodes and the paths at which there is a node are one to one. -/
theorem locate?_eq_some_iff (sound : tree.Sound) {path : List String} {id : NodeId} :
    tree.locate? path = some id ↔ id < tree.size ∧ tree.lineage id = path := by
  constructor
  · intro h
    have := sound.lineage_of_seek sound.root_lt h
    simpa [sound.lineage_root] using this
  · rintro ⟨hlt, rfl⟩
    exact sound.locate?_lineage hlt

theorem ne_root_of_locate? (sound : tree.Sound) {path : List String} {id : NodeId}
    (hpath : tree.locate? path = some id) (h : path ≠ []) : id ≠ root := by
  rintro rfl
  rw [sound.locate?_eq_some_iff, sound.lineage_root] at hpath
  exact h hpath.2.symm

theorem lower_of_mem_lineage (sound : tree.Sound) {id : NodeId} (h : id < tree.size)
    {name : String} (hm : name ∈ tree.lineage id) : Text.lower name = name := by
  induction id using Nat.strongRecOn with
  | ind id ih =>
    by_cases hroot : id = root
    · subst hroot
      simp [sound.lineage_root] at hm
    · obtain ⟨node, hnode⟩ := node?_of_lt h
      obtain ⟨parent, above, hparent, hlt, habove, _⟩ := sound.parented hnode hroot
      rw [sound.lineage_of_parent? hnode hparent] at hm
      rcases List.mem_append.mp hm with hm | hm
      · exact ih parent hlt (node?_lt habove) hm
      · rw [List.mem_singleton.mp hm]
        exact sound.lowered hnode

theorem map_lower_of_locate? (sound : tree.Sound) {path : List String} {id : NodeId}
    (h : tree.locate? path = some id) : path.map Text.lower = path := by
  obtain ⟨hlt, hlineage⟩ := sound.locate?_eq_some_iff.mp h
  calc path.map Text.lower = path.map fun name => name := List.map_congr_left fun name hm =>
        sound.lower_of_mem_lineage hlt (hlineage ▸ hm)
    _ = path := List.map_id' path

theorem follow_of_compound (sound : tree.Sound) {id target : NodeId} {node : Node}
    (h : tree.node? id = some node) (hk : node.kind = .compound target) :
    tree.follow id = target := by
  obtain ⟨_, hlt, inner, _, _, _, hinner, hschema, _⟩ := sound.wrapped h hk
  have hstop : inner.target? = none := by simp [Node.target?, hschema]
  have hgo : node.target? = some target := by simp [Node.target?, hk]
  have hsize := node?_lt h
  unfold follow
  cases hs : tree.size with
  | zero => rw [hs] at hsize; exact absurd hsize (Nat.not_lt_zero id)
  | succ steps =>
    simp only [followFrom, h, Option.bind_some, hgo]
    cases steps with
    | zero => rfl
    | succ => simp [followFrom, hinner, hstop]

end Sound

theorem follow_of_target?_none {tree : Tree} {id : NodeId}
    (h : (tree.node? id).bind Node.target? = none) : tree.follow id = id := by
  unfold follow
  cases tree.size with
  | zero => rfl
  | succ steps => simp [followFrom, h]

theorem lt_of_node?_follow {tree : Tree} {id : NodeId} {node : Node}
    (h : tree.node? (tree.follow id) = some node) : id < tree.size := by
  apply Classical.byContradiction
  intro hge
  have hnone : tree.node? id = none := Array.getElem?_eq_none (Nat.not_lt.mp hge)
  rw [follow_of_target?_none (by simp [hnone]), hnone] at h
  cases h

theorem target?_eq_none {node : Node} (h : ∀ target, node.kind ≠ .compound target) :
    node.target? = none := by
  unfold Node.target?
  split
  next target eq => exact absurd eq (h target)
  next => rfl

theorem follow_of_kind {tree : Tree} {id : NodeId} {node : Node} (h : tree.node? id = some node)
    (hk : ∀ target, node.kind ≠ .compound target) : tree.follow id = id := by
  apply follow_of_target?_none
  rw [h, Option.bind_some, target?_eq_none hk]

theorem children_of_follow {tree : Tree} {id : NodeId} {node : Node} (h : tree.node? id = some node)
    (hfollow : tree.follow id = id) : tree.children id = node.children := by
  simp [children, hfollow, h]

theorem children_of_kind {tree : Tree} {id : NodeId} {node : Node} (h : tree.node? id = some node)
    (hk : ∀ target, node.kind ≠ .compound target) : tree.children id = node.children :=
  children_of_follow h (follow_of_kind h hk)

namespace Sound

variable {tree : Tree}

theorem follow_root (sound : tree.Sound) : tree.follow root = root := by
  obtain ⟨top, htop, _, _, hkind⟩ := sound.rooted
  exact follow_of_kind htop (by simp [hkind])

theorem follow_cases (sound : tree.Sound) {id : NodeId} {node : Node}
    (h : tree.node? id = some node) :
    (∃ target inner connector, node.kind = .compound target ∧ tree.follow id = target ∧
      tree.node? target = some inner ∧ inner.kind = .schema connector) ∨
    ((∀ target, node.kind ≠ .compound target) ∧ tree.follow id = id) := by
  by_cases hk : ∃ target, node.kind = .compound target
  · obtain ⟨target, hk⟩ := hk
    obtain ⟨_, _, inner, _, _, connector, hinner, hschema, _⟩ := sound.wrapped h hk
    exact Or.inl ⟨target, inner, connector, hk, sound.follow_of_compound h hk, hinner, hschema⟩
  · have hne : ∀ target, node.kind ≠ .compound target := fun target eq => hk ⟨target, eq⟩
    exact Or.inr ⟨hne, follow_of_kind h hne⟩

theorem follow_lt (sound : tree.Sound) {id : NodeId} (h : id < tree.size) :
    tree.follow id < tree.size := by
  obtain ⟨node, hnode⟩ := node?_of_lt h
  rcases sound.follow_cases hnode with ⟨target, inner, _, _, heq, hinner, _⟩ | ⟨_, heq⟩
  · rw [heq]
    exact node?_lt hinner
  · rw [heq]
    exact h

theorem follow_follow (sound : tree.Sound) {id : NodeId} (h : id < tree.size) :
    tree.follow (tree.follow id) = tree.follow id := by
  obtain ⟨node, hnode⟩ := node?_of_lt h
  rcases sound.follow_cases hnode with ⟨target, inner, connector, _, heq, hinner, hkind⟩ | ⟨_, heq⟩
  · rw [heq]
    apply follow_of_kind hinner
    intro other hcompound
    rw [hkind] at hcompound
    cases hcompound
  · rw [heq, heq]

theorem child?_eq_some (sound : tree.Sound) {parent id : NodeId} {name : String}
    (h : tree.child? parent name = some id) : ∃ above node,
      tree.node? (tree.follow parent) = some above ∧
      above.children.get? (Text.lower name) = some id ∧ tree.node? id = some node ∧
      node.name = Text.lower name ∧ node.parent? = some (tree.follow parent) := by
  obtain ⟨above, habove, hget⟩ := Option.bind_eq_some_iff.mp h
  obtain ⟨node, hnode, hname, hparent⟩ := sound.listed habove hget
  exact ⟨above, node, habove, hget, hnode, hname, hparent⟩

theorem child?_ne_root (sound : tree.Sound) {parent id : NodeId} {name : String}
    (h : tree.child? parent name = some id) : id ≠ root := by
  obtain ⟨_, node, _, _, hnode, _, hparent⟩ := sound.child?_eq_some h
  rintro rfl
  exact absurd (sound.of_parent? hnode hparent).1 (Nat.not_lt_zero _)

theorem child?_lt (sound : tree.Sound) {parent id : NodeId} {name : String}
    (h : tree.child? parent name = some id) : id < tree.size := by
  obtain ⟨_, node, _, _, hnode, _⟩ := sound.child?_eq_some h
  exact node?_lt hnode

end Sound

theorem child?_lower (tree : Tree) (parent : NodeId) (name : String) :
    tree.child? parent (Text.lower name) = tree.child? parent name := by
  simp [child?, ownChild?]

theorem child?_root {tree : Tree} (sound : tree.Sound) (name : String) :
    tree.child? root name = tree.locate? [Text.lower name] := by
  rw [child?, sound.follow_root, ownChild?, locate?, seek_singleton]

namespace Keeps

variable {before after : Tree}

theorem seek (keeps : before.Keeps after) {start id : NodeId} {path : List String}
    (h : before.seek start path = some id) : after.seek start path = some id := by
  induction path generalizing start with
  | nil => exact h
  | cons key rest ih =>
    obtain ⟨child, hchild, hrest⟩ := Option.bind_eq_some_iff.mp h
    obtain ⟨node, hnode, hget⟩ := Option.bind_eq_some_iff.mp hchild
    obtain ⟨later, hlater, _, _, _, _, hchildren, _⟩ := keeps hnode
    have hget' := hchildren key child hget
    simp only [Tree.seek, hlater, Option.bind_some, hget', ih hrest]

theorem locate? (keeps : before.Keeps after) {path : List String} {id : NodeId}
    (h : before.locate? path = some id) : after.locate? path = some id :=
  keeps.seek h

theorem lineage (keeps : before.Keeps after) (sound : before.Sound) (sound' : after.Sound)
    {id : NodeId} (h : id < before.size) : after.lineage id = before.lineage id := by
  have hpath := keeps.locate? (sound.locate?_lineage h)
  exact (sound'.locate?_eq_some_iff.mp hpath).2

theorem follow (keeps : before.Keeps after) (sound : before.Sound) (sound' : after.Sound)
    {id : NodeId} (h : id < before.size) : after.follow id = before.follow id := by
  obtain ⟨node, hnode⟩ := node?_of_lt h
  obtain ⟨later, hlater, _, _, _, hkind, _⟩ := keeps hnode
  rcases sound.follow_cases hnode with ⟨target, _, _, hcompound, heq, _⟩ | ⟨hne, heq⟩
  · rw [heq]
    exact sound'.follow_of_compound hlater (hkind.trans hcompound)
  · rw [heq]
    exact follow_of_kind hlater (fun target eq => hne target (hkind.symm.trans eq))

theorem child? (keeps : before.Keeps after) (sound : before.Sound) (sound' : after.Sound)
    {parent id : NodeId} {name : String} (h : before.child? parent name = some id) :
    after.child? parent name = some id := by
  obtain ⟨above, _, habove, hget, _⟩ := sound.child?_eq_some h
  have hparent := lt_of_node?_follow habove
  obtain ⟨later, hlater, _, _, _, _, hchildren, _⟩ := keeps habove
  rw [Tree.child?, keeps.follow sound sound' hparent, ownChild?, hlater]
  exact hchildren _ _ hget

theorem table? (keeps : before.Keeps after) (sound : before.Sound) (sound' : after.Sound)
    {parent : NodeId} {name : String} {entry : TableEntry}
    (h : before.table? parent name true = some entry) :
    after.table? parent name true = some entry := by
  obtain ⟨above, habove, htable⟩ := Option.bind_eq_some_iff.mp h
  have hparent := lt_of_node?_follow habove
  obtain ⟨later, hlater, _, _, _, _, _, htables⟩ := keeps habove
  rw [Node.table?_exact] at htable
  rw [Tree.table?, keeps.follow sound sound' hparent, hlater, Option.bind_some, Node.table?_exact]
  exact htables name entry htable

theorem walk? (keeps : before.Keeps after) (sound : before.Sound) (sound' : after.Sound)
    {start id : NodeId} {names : List String} (h : before.walk? start names = some id) :
    after.walk? start names = some id := by
  induction names generalizing start with
  | nil => exact h
  | cons name rest ih =>
    obtain ⟨child, hchild, hrest⟩ := Option.bind_eq_some_iff.mp h
    simp only [Tree.walk?, keeps.child? sound sound' hchild, Option.bind_some, ih hrest]

end Keeps

end FederatedCatalog.Tree
