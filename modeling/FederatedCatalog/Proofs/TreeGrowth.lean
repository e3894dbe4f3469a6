import FederatedCatalog.Proofs.NameMap
import FederatedCatalog.Proofs.DottedName

namespace FederatedCatalog.Tree

/-- A later tree has every node of an earlier one, with its number, name, parent and kind and
everything that is entered in it. -/
def Keeps (before after : Tree) : Prop :=
  ∀ ⦃id : NodeId⦄ ⦃node : Node⦄, before.node? id = some node → ∃ later,
    after.node? id = some later ∧ later.id = node.id ∧ later.name = node.name ∧
    later.parent? = node.parent? ∧ later.kind = node.kind ∧
    (∀ key child, node.children.get? key = some child → later.children.get? key = some child) ∧
    ∀ name entry, node.tables.get? name = some entry → later.tables.get? name = some entry

/-- A schema of the second level: its parent is a child of the root with a dotless name, and `key`
is the name that the two names make. -/
def Wraps (tree : Tree) (key : String) (target : NodeId) : Prop :=
  ∃ (node : Node) (outer : NodeId) (above : Node) (connector : String),
    tree.node? target = some node ∧ node.kind = .schema connector ∧ node.parent? = some outer ∧
    tree.node? outer = some above ∧ above.parent? = some root ∧ Undotted above.name ∧
    key = compoundName above.name node.name

/-- Whether a child of that kind may be made. -/
def Admits (tree : Tree) (parent : NodeId) (key : String) : NodeKind → Prop
  | .root => False
  | .compound target => parent = root ∧ tree.Wraps key target
  | _ => True

/-- The trees that come about from one by additions. -/
inductive Grown (tree : Tree) : Tree → Prop
  | refl : Grown tree tree
  | child {grown : Tree} {parent : NodeId} {node : Node} {key : String} {kind : NodeKind}
      (before : Grown tree grown) (found : grown.node? parent = some node)
      (free : node.children.get? key = none) (lowered : Text.lower key = key)
      (admitted : grown.Admits parent key kind) : Grown tree (grown.addChild parent key kind)
  | table {grown : Tree} {parent : NodeId} {node : Node} (before : Grown tree grown)
      (found : grown.node? parent = some node) (entry : TableEntry) :
      Grown tree (grown.addTable parent entry)

/-- The order that trees are in. -/
structure Sound (tree : Tree) : Prop where
  rooted : ∃ node, tree.node? root = some node ∧ node.name = rootName ∧ node.parent? = none ∧
    node.kind = .root
  numbered : ∀ {id node}, tree.node? id = some node → node.id = id
  parented : ∀ {id node}, tree.node? id = some node → id ≠ root → ∃ parent above,
    node.parent? = some parent ∧ parent < id ∧ tree.node? parent = some above ∧
    above.children.get? node.name = some id
  rootOnly : ∀ {id node}, tree.node? id = some node → node.kind = .root → id = root
  listed : ∀ {id node key child}, tree.node? id = some node →
    node.children.get? key = some child → ∃ below, tree.node? child = some below ∧
    below.name = key ∧ below.parent? = some id
  lowered : ∀ {id node}, tree.node? id = some node → Text.lower node.name = node.name
  titled : ∀ {id node name entry}, tree.node? id = some node →
    node.tables.get? name = some entry → entry.name = name
  ordered : ∀ {id node}, tree.node? id = some node → node.children.Sorted ∧ node.tables.Sorted
  wrapped : ∀ {id node target}, tree.node? id = some node → node.kind = .compound target →
    node.parent? = some root ∧ target < id ∧ tree.Wraps node.name target

theorem node?_lt {tree : Tree} {id : NodeId} {node : Node} (h : tree.node? id = some node) :
    id < tree.size := by
  obtain ⟨hlt, _⟩ := Array.getElem?_eq_some_iff.mp h
  exact hlt

theorem node?_of_lt {tree : Tree} {id : NodeId} (h : id < tree.size) :
    ∃ node, tree.node? id = some node :=
  ⟨_, Array.getElem?_eq_getElem h⟩

theorem node?_addChild {tree : Tree} {parent : NodeId} {node : Node}
    (found : tree.node? parent = some node) (key : String) (kind : NodeKind) (id : NodeId) :
    (tree.addChild parent key kind).node? id =
      if id = parent then some { node with children := node.children.put key tree.size }
      else if id = tree.size then some ⟨tree.size, key, some parent, kind, [], []⟩
      else tree.node? id := by
  have hlt := node?_lt found
  have hsize : tree.nodes.size = tree.size := rfl
  have hget : tree.nodes[parent]? = some node := found
  unfold addChild node?
  simp only [Array.getElem?_modify, Array.getElem?_push, hsize]
  by_cases hp : id = parent
  · subst hp
    simp [Nat.ne_of_lt hlt, hget]
  · simp [hp, Ne.symm hp]

theorem node?_addTable {tree : Tree} {parent : NodeId} {node : Node}
    (found : tree.node? parent = some node) (entry : TableEntry) (id : NodeId) :
    (tree.addTable parent entry).node? id =
      if id = parent then some { node with tables := node.tables.putNew entry.name entry }
      else tree.node? id := by
  have hget : tree.nodes[parent]? = some node := found
  unfold addTable node?
  simp only [Array.getElem?_modify]
  by_cases hp : id = parent
  · subst hp
    simp [hget]
  · simp [hp, Ne.symm hp]

@[simp] theorem size_addChild (tree : Tree) (parent : NodeId) (key : String) (kind : NodeKind) :
    (tree.addChild parent key kind).size = tree.size + 1 := by
  simp [addChild, size]

@[simp] theorem size_addTable (tree : Tree) (parent : NodeId) (entry : TableEntry) :
    (tree.addTable parent entry).size = tree.size := by
  simp [addTable, size]

theorem Keeps.refl (tree : Tree) : tree.Keeps tree :=
  fun _ _ h => ⟨_, h, rfl, rfl, rfl, rfl, fun _ _ hc => hc, fun _ _ ht => ht⟩

theorem Keeps.trans {first second third : Tree} (h : first.Keeps second) (h' : second.Keeps third) :
    first.Keeps third := by
  intro id node found
  obtain ⟨mid, hmid, hid, hname, hparent, hkind, hchildren, htables⟩ := h found
  obtain ⟨last, hlast, hid', hname', hparent', hkind', hchildren', htables'⟩ := h' hmid
  exact ⟨last, hlast, hid'.trans hid, hname'.trans hname, hparent'.trans hparent,
    hkind'.trans hkind, fun key child hc => hchildren' key child (hchildren key child hc),
    fun name entry ht => htables' name entry (htables name entry ht)⟩

theorem keeps_addChild {tree : Tree} {parent : NodeId} {node : Node} {key : String}
    (found : tree.node? parent = some node) (free : node.children.get? key = none)
    (kind : NodeKind) : tree.Keeps (tree.addChild parent key kind) := by
  intro id old hold
  rw [node?_addChild found]
  have hlt := node?_lt hold
  by_cases hp : id = parent
  · subst hp
    cases Option.some.inj (hold.symm.trans found)
    refine ⟨_, if_pos rfl, rfl, rfl, rfl, rfl, ?_, fun _ _ ht => ht⟩
    intro other child hc
    have hne : key ≠ other := by
      rintro rfl
      rw [free] at hc
      cases hc
    exact (NameMap.get?_put_of_ne _ _ hne).trans hc
  · refine ⟨old, ?_, rfl, rfl, rfl, rfl, fun _ _ hc => hc, fun _ _ ht => ht⟩
    rw [if_neg hp, if_neg (Nat.ne_of_lt hlt), hold]

theorem keeps_addTable {tree : Tree} {parent : NodeId} {node : Node}
    (found : tree.node? parent = some node) (entry : TableEntry) :
    tree.Keeps (tree.addTable parent entry) := by
  intro id old hold
  rw [node?_addTable found]
  by_cases hp : id = parent
  · subst hp
    cases Option.some.inj (hold.symm.trans found)
    refine ⟨_, if_pos rfl, rfl, rfl, rfl, rfl, fun _ _ hc => hc, ?_⟩
    intro name kept ht
    rw [NameMap.get?_putNew]
    split
    next eq => simp [eq, ht]
    next => exact ht
  · exact ⟨old, by rw [if_neg hp, hold], rfl, rfl, rfl, rfl, fun _ _ hc => hc, fun _ _ ht => ht⟩

theorem Grown.keeps {before after : Tree} (grown : before.Grown after) : before.Keeps after := by
  induction grown with
  | refl => exact Keeps.refl before
  | child _ found free _ _ ih => exact ih.trans (keeps_addChild found free _)
  | table _ found entry ih => exact ih.trans (keeps_addTable found entry)

theorem Grown.trans {first second third : Tree} (h : first.Grown second) (h' : second.Grown third) :
    first.Grown third := by
  induction h' with
  | refl => exact h
  | child _ found free lowered admitted ih => exact ih.child found free lowered admitted
  | table _ found entry ih => exact ih.table found entry

theorem Keeps.wraps {before after : Tree} (keeps : before.Keeps after) {key : String}
    {target : NodeId} (h : before.Wraps key target) : after.Wraps key target := by
  obtain ⟨node, outer, above, connector, hnode, hkind, hparent, habove, hroot, hdot, hkey⟩ := h
  obtain ⟨node', hnode', _, hname', hparent', hkind', _⟩ := keeps hnode
  obtain ⟨above', habove', _, hname'', hparent'', _⟩ := keeps habove
  exact ⟨node', outer, above', connector, hnode', hkind'.trans hkind, hparent'.trans hparent,
    habove', hparent''.trans hroot, by rw [hname'']; exact hdot,
    by rw [hname', hname'']; exact hkey⟩

theorem Wraps.lt {tree : Tree} {key : String} {target : NodeId} (h : tree.Wraps key target) :
    target < tree.size := by
  obtain ⟨node, _, _, _, hnode, _⟩ := h
  exact node?_lt hnode

section Later

variable {before after : Tree} (sound : before.Sound) (keeps : before.Keeps after)

include sound keeps

theorem Sound.rooted_later : ∃ node, after.node? root = some node ∧ node.name = rootName ∧
    node.parent? = none ∧ node.kind = .root := by
  obtain ⟨top, htop, hname, hparent, hkind⟩ := sound.rooted
  obtain ⟨later, hlater, _, hname', hparent', hkind', _⟩ := keeps htop
  exact ⟨later, hlater, hname'.trans hname, hparent'.trans hparent, hkind'.trans hkind⟩

theorem Sound.parented_later {id : NodeId} {node : Node} (h : before.node? id = some node)
    (hne : id ≠ root) : ∃ parent above, node.parent? = some parent ∧ parent < id ∧
      after.node? parent = some above ∧ above.children.get? node.name = some id := by
  obtain ⟨parent, above, hparent, hlt, habove, hlisted⟩ := sound.parented h hne
  obtain ⟨later, hlater, _, _, _, _, hchildren, _⟩ := keeps habove
  exact ⟨parent, later, hparent, hlt, hlater, hchildren _ _ hlisted⟩

theorem Sound.listed_later {id child : NodeId} {node : Node} {key : String}
    (h : before.node? id = some node) (hc : node.children.get? key = some child) : ∃ below,
      after.node? child = some below ∧ below.name = key ∧ below.parent? = some id := by
  obtain ⟨below, hbelow, hname, hparent⟩ := sound.listed h hc
  obtain ⟨later, hlater, _, hname', hparent', _⟩ := keeps hbelow
  exact ⟨later, hlater, hname'.trans hname, hparent'.trans hparent⟩

theorem Sound.wrapped_later {id target : NodeId} {node : Node} (h : before.node? id = some node)
    (hkind : node.kind = .compound target) :
    node.parent? = some root ∧ target < id ∧ after.Wraps node.name target := by
  obtain ⟨hparent, hlt, hwraps⟩ := sound.wrapped h hkind
  exact ⟨hparent, hlt, keeps.wraps hwraps⟩

end Later

theorem sound_bare : Sound bare := by
  have hroot : ∀ {id node}, bare.node? id = some node →
      id = root ∧ node = ⟨root, rootName, none, .root, [], []⟩ := by
    intro id node h
    obtain rfl : id = root := Nat.lt_one_iff.mp (node?_lt h)
    exact ⟨rfl, (Option.some.inj h).symm⟩
  constructor
  case rooted => exact ⟨_, rfl, rfl, rfl, rfl⟩
  case numbered =>
    intro id node h
    obtain ⟨rfl, rfl⟩ := hroot h
    rfl
  case parented =>
    intro id node h hne
    exact absurd (hroot h).1 hne
  case rootOnly =>
    intro id node h _
    exact (hroot h).1
  case listed =>
    intro id node key child h hc
    obtain ⟨rfl, rfl⟩ := hroot h
    simp [NameMap.get?] at hc
  case lowered =>
    intro id node h
    obtain ⟨rfl, rfl⟩ := hroot h
    decide
  case titled =>
    intro id node name entry h ht
    obtain ⟨rfl, rfl⟩ := hroot h
    simp [NameMap.get?] at ht
  case ordered =>
    intro id node h
    obtain ⟨rfl, rfl⟩ := hroot h
    exact ⟨List.Pairwise.nil, List.Pairwise.nil⟩
  case wrapped =>
    intro id node target h hk
    obtain ⟨rfl, rfl⟩ := hroot h
    cases hk

theorem node?_addChild_cases {tree : Tree} {parent id : NodeId} {node found : Node} {key : String}
    {kind : NodeKind} (hparent : tree.node? parent = some node)
    (h : (tree.addChild parent key kind).node? id = some found) :
    (id = parent ∧ found = { node with children := node.children.put key tree.size }) ∨
    (id = tree.size ∧ found = ⟨tree.size, key, some parent, kind, [], []⟩) ∨
    (id ≠ parent ∧ id ≠ tree.size ∧ tree.node? id = some found) := by
  rw [node?_addChild hparent] at h
  split at h
  next eq => exact Or.inl ⟨eq, (Option.some.inj h).symm⟩
  next hne =>
    split at h
    next eq => exact Or.inr (Or.inl ⟨eq, (Option.some.inj h).symm⟩)
    next hne' => exact Or.inr (Or.inr ⟨hne, hne', h⟩)

theorem node?_addChild_data {tree : Tree} {parent id : NodeId} {node found : Node} {key : String}
    {kind : NodeKind} (hparent : tree.node? parent = some node)
    (h : (tree.addChild parent key kind).node? id = some found) :
    (id = tree.size ∧ found = ⟨tree.size, key, some parent, kind, [], []⟩) ∨
    ∃ old, tree.node? id = some old ∧ found.id = old.id ∧ found.name = old.name ∧
      found.parent? = old.parent? ∧ found.kind = old.kind ∧ found.tables = old.tables := by
  rcases node?_addChild_cases hparent h with ⟨rfl, rfl⟩ | hnew | ⟨_, _, hold⟩
  · exact Or.inr ⟨node, hparent, rfl, rfl, rfl, rfl, rfl⟩
  · exact Or.inl hnew
  · exact Or.inr ⟨found, hold, rfl, rfl, rfl, rfl, rfl⟩

theorem node?_addTable_data {tree : Tree} {parent id : NodeId} {node found : Node}
    {entry : TableEntry} (hparent : tree.node? parent = some node)
    (h : (tree.addTable parent entry).node? id = some found) :
    ∃ old, tree.node? id = some old ∧ found.id = old.id ∧ found.name = old.name ∧
      found.parent? = old.parent? ∧ found.kind = old.kind ∧ found.children = old.children ∧
      (found.tables = old.tables ∨ found.tables = old.tables.putNew entry.name entry) := by
  rw [node?_addTable hparent] at h
  split at h
  next eq =>
    cases Option.some.inj h
    exact ⟨node, eq ▸ hparent, rfl, rfl, rfl, rfl, rfl, Or.inr rfl⟩
  next => exact ⟨found, h, rfl, rfl, rfl, rfl, rfl, Or.inl rfl⟩

theorem Sound.addChild {tree : Tree} (sound : tree.Sound) {parent : NodeId} {node : Node}
    {key : String} {kind : NodeKind} (found : tree.node? parent = some node)
    (free : node.children.get? key = none) (lowered : Text.lower key = key)
    (admitted : tree.Admits parent key kind) : (tree.addChild parent key kind).Sound := by
  have keeps : tree.Keeps (tree.addChild parent key kind) := keeps_addChild found free kind
  have hplt := node?_lt found
  have hnew : (tree.addChild parent key kind).node? tree.size =
      some ⟨tree.size, key, some parent, kind, [], []⟩ := by
    rw [node?_addChild found, if_neg (Nat.ne_of_gt hplt), if_pos rfl]
  have hkind : kind ≠ .root := by
    rintro rfl
    exact admitted
  constructor
  case rooted => exact sound.rooted_later keeps
  case numbered =>
    intro id later h
    rcases node?_addChild_data found h with ⟨rfl, rfl⟩ | ⟨old, hold, hid, _⟩
    · rfl
    · exact hid.trans (sound.numbered hold)
  case parented =>
    intro id later h hne
    rcases node?_addChild_data found h with ⟨rfl, rfl⟩ | ⟨old, hold, _, hname, hparent, _⟩
    · refine ⟨parent, _, rfl, hplt, by rw [node?_addChild found, if_pos rfl], ?_⟩
      exact NameMap.get?_put_self key tree.size node.children
    · rw [hname, hparent]
      exact sound.parented_later keeps hold hne
  case rootOnly =>
    intro id later h hroot
    rcases node?_addChild_data found h with ⟨rfl, rfl⟩ | ⟨old, hold, _, _, _, hk, _⟩
    · exact absurd hroot hkind
    · exact sound.rootOnly hold (hk.symm.trans hroot)
  case listed =>
    intro id later other child h hc
    rcases node?_addChild_cases found h with ⟨rfl, rfl⟩ | ⟨rfl, rfl⟩ | ⟨_, _, hold⟩
    · rw [NameMap.get?_put] at hc
      split at hc
      next eq =>
        cases Option.some.inj hc
        exact ⟨_, hnew, eq, rfl⟩
      next => exact sound.listed_later keeps found hc
    · simp [NameMap.get?] at hc
    · exact sound.listed_later keeps hold hc
  case lowered =>
    intro id later h
    rcases node?_addChild_data found h with ⟨rfl, rfl⟩ | ⟨old, hold, _, hname, _⟩
    · exact lowered
    · rw [hname]
      exact sound.lowered hold
  case titled =>
    intro id later name entry h ht
    rcases node?_addChild_data found h with ⟨rfl, rfl⟩ | ⟨old, hold, _, _, _, _, htables⟩
    · simp [NameMap.get?] at ht
    · exact sound.titled hold (htables ▸ ht)
  case ordered =>
    intro id later h
    rcases node?_addChild_cases found h with ⟨rfl, rfl⟩ | ⟨rfl, rfl⟩ | ⟨_, _, hold⟩
    · have := sound.ordered found
      exact ⟨NameMap.sorted_put key tree.size this.1, this.2⟩
    · exact ⟨List.Pairwise.nil, List.Pairwise.nil⟩
    · exact sound.ordered hold
  case wrapped =>
    intro id later target h hk
    rcases node?_addChild_data found h with ⟨rfl, rfl⟩ | ⟨old, hold, _, hname, hparent, hkind', _⟩
    · simp only at hk
      subst hk
      exact ⟨congrArg some admitted.1, admitted.2.lt, keeps.wraps admitted.2⟩
    · rw [hname, hparent]
      exact sound.wrapped_later keeps hold (hkind'.symm.trans hk)

theorem Sound.addTable {tree : Tree} (sound : tree.Sound) {parent : NodeId} {node : Node}
    (found : tree.node? parent = some node) (entry : TableEntry) :
    (tree.addTable parent entry).Sound := by
  have keeps := keeps_addTable found entry
  constructor
  case rooted => exact sound.rooted_later keeps
  case numbered =>
    intro id later h
    obtain ⟨old, hold, hid, _⟩ := node?_addTable_data found h
    exact hid.trans (sound.numbered hold)
  case parented =>
    intro id later h hne
    obtain ⟨old, hold, _, hname, hparent, _⟩ := node?_addTable_data found h
    rw [hname, hparent]
    exact sound.parented_later keeps hold hne
  case rootOnly =>
    intro id later h hroot
    obtain ⟨old, hold, _, _, _, hk, _⟩ := node?_addTable_data found h
    exact sound.rootOnly hold (hk.symm.trans hroot)
  case listed =>
    intro id later other child h hc
    obtain ⟨old, hold, _, _, _, _, hchildren, _⟩ := node?_addTable_data found h
    exact sound.listed_later keeps hold (hchildren ▸ hc)
  case lowered =>
    intro id later h
    obtain ⟨old, hold, _, hname, _⟩ := node?_addTable_data found h
    rw [hname]
    exact sound.lowered hold
  case titled =>
    intro id later name kept h ht
    obtain ⟨old, hold, _, _, _, _, _, htables⟩ := node?_addTable_data found h
    rcases htables with eq | eq
    · exact sound.titled hold (eq ▸ ht)
    · rw [eq, NameMap.get?_putNew] at ht
      split at ht
      next heq =>
        cases hget : old.tables.get? entry.name with
        | none =>
          rw [hget] at ht
          cases Option.some.inj ht
          exact heq
        | some first =>
          rw [hget] at ht
          cases Option.some.inj ht
          exact (sound.titled hold hget).trans heq
      next => exact sound.titled hold ht
  case ordered =>
    intro id later h
    obtain ⟨old, hold, _, _, _, _, hchildren, htables⟩ := node?_addTable_data found h
    have := sound.ordered hold
    refine ⟨hchildren ▸ this.1, ?_⟩
    rcases htables with eq | eq
    · exact eq ▸ this.2
    · exact eq ▸ NameMap.sorted_putNew _ _ this.2
  case wrapped =>
    intro id later target h hk
    obtain ⟨old, hold, _, hname, hparent, hkind, _⟩ := node?_addTable_data found h
    rw [hname, hparent]
    exact sound.wrapped_later keeps hold (hkind.symm.trans hk)

theorem Sound.of_grown {before after : Tree} (sound : before.Sound) (grown : before.Grown after) :
    after.Sound := by
  induction grown with
  | refl => exact sound
  | child _ found free lowered admitted ih => exact ih.addChild found free lowered admitted
  | table _ found entry ih => exact ih.addTable found entry

end FederatedCatalog.Tree
