import FederatedCatalog.Proofs.Content

namespace FederatedCatalog.Tree

theorem addTable_gains {tree : Tree} (sound : tree.Sound) {parent : NodeId} {place : List String}
    (hplace : tree.locate? (place.map Text.lower) = some parent) (entry : TableEntry) :
    tree.Gains (tree.addTable parent entry) (.ofLists [] [(place, entry)]) := by
  obtain ⟨node, found⟩ := sound.locate?_node hplace
  exact ⟨.table .refl found entry, content_addTable sound hplace entry⟩

theorem ensureChild_gains {tree : Tree} (sound : tree.Sound) {parent : NodeId}
    (place : List String) (name : String) {kind : NodeKind}
    (hplace : tree.locate? (place.map Text.lower) = some parent)
    (admitted : tree.Admits parent (Text.lower name) kind) :
    tree.Gains (tree.ensureChild parent name kind).1 (.ofLists [(place ++ [name], kind)] []) ∧
      (tree.ensureChild parent name kind).1.locate? ((place ++ [name]).map Text.lower) =
        some (tree.ensureChild parent name kind).2 := by
  obtain ⟨node, found⟩ := sound.locate?_node hplace
  have hspelled : (place ++ [name]).map Text.lower = place.map Text.lower ++ [Text.lower name] := by
    simp
  rw [hspelled]
  cases h : node.children.get? (Text.lower name) with
  | some id =>
    have hid : tree.locate? (place.map Text.lower ++ [Text.lower name]) = some id := by
      simp [locate?_concat, hplace, found, h]
    have heq : tree.ensureChild parent name kind = (tree, id) := by simp [ensureChild, found, h]
    rw [heq]
    refine ⟨⟨.refl, (Keeps.refl tree).content_eq sound ?_ ?_⟩, hid⟩
    · intro path hnone
      have hne : place.map Text.lower ++ [Text.lower name] ≠ path := by
        rintro rfl
        rw [hid] at hnone
        cases hnone
      obtain ⟨hkind, htables⟩ := content_of_locate?_none hnone
      refine ⟨by simp [hkind, Content.ofLists, hne], ?_⟩
      intro table
      rw [htables table]
      rfl
    · intro path other old later _ hold hlater table
      cases Option.some.inj (hold.symm.trans hlater)
      simp [Content.ofLists]
  | none =>
    have heq : tree.ensureChild parent name kind =
        (tree.addChild parent (Text.lower name) kind, tree.size) := by
      simp [ensureChild, found, h]
    rw [heq]
    exact ⟨⟨.child .refl found h (Text.lower_lower name) admitted,
      content_addChild sound found h admitted hplace⟩, locate?_addChild_self found h kind hplace⟩

theorem admits_openedKind (tree : Tree) (parent : NodeId) (key connector : String)
    (foreignType? : Option String) :
    tree.Admits parent key (openedKind connector foreignType?) := by
  cases foreignType? <;> trivial

mutual

theorem add_gains (connector : String) {tree : Tree} (sound : tree.Sound) {parent : NodeId}
    {place : List String} (hplace : tree.locate? (place.map Text.lower) = some parent)
    (addition : Addition) : tree.Gains (add connector parent tree addition)
      (.ofLists (addition.schemas connector place) (addition.tables place)) := by
  match addition with
  | .table entry => exact addTable_gains sound hplace entry
  | .schema name foreignType? inside =>
    obtain ⟨opened, hchild⟩ := ensureChild_gains sound place name hplace
      (admits_openedKind tree parent (Text.lower name) connector foreignType?)
    have rest := addAll_gains connector (sound.of_grown opened.grown) hchild inside
    have both := opened.trans rest
    rw [Content.ofAdditions, ← Content.ofLists_append] at both
    exact both

/-- A connector's additions to a node lay what they open and what tables they add under what there
is, at the node's place. -/
theorem addAll_gains (connector : String) {tree : Tree} (sound : tree.Sound) {parent : NodeId}
    {place : List String} (hplace : tree.locate? (place.map Text.lower) = some parent)
    (additions : List Addition) : tree.Gains (addAll connector parent tree additions)
      (.ofAdditions connector place additions) := by
  match additions with
  | [] => exact Gains.refl tree
  | addition :: rest =>
    have first := add_gains connector sound hplace addition
    have others := addAll_gains connector (sound.of_grown first.grown)
      (first.grown.keeps.locate? hplace) rest
    have both := first.trans others
    rw [Content.ofAdditions, ← Content.ofLists_append] at both
    exact both

end

theorem addTables_gains {tree : Tree} (sound : tree.Sound) {parent : NodeId} {place : List String}
    (hplace : tree.locate? (place.map Text.lower) = some parent) (entries : List TableEntry) :
    tree.Gains (tree.addTables parent entries)
      (.ofLists [] (entries.map fun entry => (place, entry))) := by
  induction entries generalizing tree with
  | nil => exact Gains.refl tree
  | cons entry rest ih =>
    have first := addTable_gains sound hplace entry
    have both := first.trans
      (ih (sound.of_grown first.grown) (first.grown.keeps.locate? hplace))
    rw [← Content.ofLists_append] at both
    exact both

/-- A tree without compound nodes. -/
def Plain (tree : Tree) : Prop :=
  ∀ ⦃id : NodeId⦄ ⦃node : Node⦄, tree.node? id = some node → ∀ target,
    node.kind ≠ .compound target

theorem staged_gains (connector : String) (additions : List Addition) :
    bare.Gains (staged connector additions) (.ofAdditions connector [] additions) := by
  have hroot : bare.locate? (List.map Text.lower []) = some root := rfl
  exact addAll_gains connector sound_bare hroot additions

theorem sound_staged (connector : String) (additions : List Addition) :
    (staged connector additions).Sound :=
  sound_bare.of_grown (staged_gains connector additions).grown

theorem content_bare : bare.content = .ofLists [([], .root)] [] := by
  ext path : 2
  · cases path with
    | nil => rfl
    | cons key rest =>
      have h : bare.locate? (key :: rest) = none := rfl
      simp [(content_of_locate?_none h).1, Content.ofLists]
  · funext name
    cases path with
    | nil => rfl
    | cons key rest =>
      have h : bare.locate? (key :: rest) = none := rfl
      simp [(content_of_locate?_none h).2 name, Content.ofLists]

mutual

theorem kind_of_mem_schemas {connector : String} {place : List String} {addition : Addition}
    {schema : List String × NodeKind} (h : schema ∈ addition.schemas connector place) :
    ∃ foreignType?, schema.2 = openedKind connector foreignType? := by
  match addition with
  | .table entry => cases h
  | .schema name foreignType? inside =>
    rcases List.mem_cons.mp h with rfl | h
    · exact ⟨foreignType?, rfl⟩
    · exact kind_of_mem_allSchemas h

theorem kind_of_mem_allSchemas {connector : String} {place : List String}
    {additions : List Addition} {schema : List String × NodeKind}
    (h : schema ∈ Addition.allSchemas connector place additions) :
    ∃ foreignType?, schema.2 = openedKind connector foreignType? := by
  match additions with
  | [] => cases h
  | addition :: rest =>
    rcases List.mem_append.mp h with h | h
    · exact kind_of_mem_schemas h
    · exact kind_of_mem_allSchemas h

end

theorem ofAdditions_not_compound (connector : String) (place : List String)
    (additions : List Addition) (path : List String) (target : NodeId) :
    (Content.ofAdditions connector place additions).kind path ≠ some (.compound target) := by
  intro h
  obtain ⟨_, hm, _⟩ := Content.mem_of_ofLists_kind h
  obtain ⟨foreignType?, hopened⟩ := kind_of_mem_allSchemas hm
  cases foreignType? <;> cases hopened

theorem plain_staged (connector : String) (additions : List Addition) :
    (staged connector additions).Plain := by
  intro id node hnode target hk
  have sound := sound_staged connector additions
  have hpath := sound.locate?_lineage (node?_lt hnode)
  have hkind := content_kind_of_locate? hpath hnode
  rw [(staged_gains connector additions).content, content_bare] at hkind
  rw [hk] at hkind
  rcases Option.or_eq_some_iff.mp hkind with hroot | ⟨_, hadded⟩
  · obtain ⟨_, hm, _⟩ := Content.mem_of_ofLists_kind hroot
    cases List.mem_singleton.mp hm
  · exact ofAdditions_not_compound connector [] additions _ target hadded

end FederatedCatalog.Tree
