import FederatedCatalog.Proofs.Lineage

namespace FederatedCatalog

/-- What is at each path from the root. -/
@[ext] structure Content where
  kind : List String → Option NodeKind
  table : List String → String → Option TableEntry

namespace Content

def empty : Content :=
  ⟨fun _ => none, fun _ _ => none⟩

/-- Both contents, with the first in front of the second. -/
def overlay (first second : Content) : Content where
  kind := fun path => (first.kind path).or (second.kind path)
  table := fun path name => (first.table path name).or (second.table path name)

def part (content : Content) (keep : List String → Bool) : Content where
  kind := fun path => if keep path then content.kind path else none
  table := fun path name => if keep path then content.table path name else none

/-- What is listed, each at its path in lower case. The first of several comes first. -/
def ofLists (schemas : List (List String × NodeKind)) (tables : List (List String × TableEntry)) :
    Content where
  kind := fun path =>
    (schemas.find? fun schema => schema.1.map Text.lower = path).map Prod.snd
  table := fun path name =>
    (tables.find? fun table => table.1.map Text.lower = path ∧ table.2.name = name).map Prod.snd

theorem overlay_assoc (first second third : Content) :
    (first.overlay second).overlay third = first.overlay (second.overlay third) := by
  simp [overlay, Option.or_assoc]

@[simp] theorem overlay_empty (content : Content) : content.overlay empty = content := by
  simp [overlay, empty]

theorem ofLists_append (schemas schemas' : List (List String × NodeKind))
    (tables tables' : List (List String × TableEntry)) :
    ofLists (schemas ++ schemas') (tables ++ tables') =
      (ofLists schemas tables).overlay (ofLists schemas' tables') := by
  simp [ofLists, overlay, List.find?_append, Option.map_or]

theorem mem_of_ofLists_kind {schemas : List (List String × NodeKind)}
    {tables : List (List String × TableEntry)} {path : List String} {kind : NodeKind}
    (h : (ofLists schemas tables).kind path = some kind) :
    ∃ place, (place, kind) ∈ schemas ∧ place.map Text.lower = path := by
  obtain ⟨⟨place, found⟩, hfind, rfl⟩ := Option.map_eq_some_iff.mp h
  have hplace := List.find?_some hfind
  exact ⟨place, List.mem_of_find?_eq_some hfind, of_decide_eq_true hplace⟩

theorem mem_of_ofLists_table {schemas : List (List String × NodeKind)}
    {tables : List (List String × TableEntry)} {path : List String} {name : String}
    {entry : TableEntry} (h : (ofLists schemas tables).table path name = some entry) :
    ∃ place, (place, entry) ∈ tables ∧ place.map Text.lower = path ∧ entry.name = name := by
  obtain ⟨⟨place, found⟩, hfind, rfl⟩ := Option.map_eq_some_iff.mp h
  have hplace := List.find?_some hfind
  exact ⟨place, List.mem_of_find?_eq_some hfind, of_decide_eq_true hplace⟩

theorem part_overlay_part (content : Content) (keep keep' : List String → Bool) :
    (content.part keep).overlay (content.part keep') =
      content.part fun path => keep path || keep' path := by
  ext path : 2
  · by_cases h : keep path <;> by_cases h' : keep' path <;> simp [overlay, part, h, h']
  · funext name
    by_cases h : keep path <;> by_cases h' : keep' path <;> simp [overlay, part, h, h']

end Content

mutual

/-- The schemas that an addition opens below a place, each with its path from the place's root, in
the names' own spelling. -/
def Addition.schemas (connector : String) (place : List String) :
    Addition → List (List String × NodeKind)
  | .table _ => []
  | .schema name foreignType? inside =>
    (place ++ [name], Tree.openedKind connector foreignType?)
      :: Addition.allSchemas connector (place ++ [name]) inside

def Addition.allSchemas (connector : String) (place : List String) :
    List Addition → List (List String × NodeKind)
  | [] => []
  | addition :: rest =>
    addition.schemas connector place ++ Addition.allSchemas connector place rest

end

mutual

/-- The tables that an addition adds at a place and below it, each with the path of its schema. -/
def Addition.tables (place : List String) : Addition → List (List String × TableEntry)
  | .table entry => [(place, entry)]
  | .schema name _ inside => Addition.allTables (place ++ [name]) inside

def Addition.allTables (place : List String) : List Addition → List (List String × TableEntry)
  | [] => []
  | addition :: rest => addition.tables place ++ Addition.allTables place rest

end

/-- The content that additions make at a place. -/
def Content.ofAdditions (connector : String) (place : List String) (additions : List Addition) :
    Content :=
  .ofLists (Addition.allSchemas connector place additions) (Addition.allTables place additions)

namespace Tree

def content (tree : Tree) : Content where
  kind := fun path => ((tree.locate? path).bind tree.node?).map Node.kind
  table := fun path name =>
    ((tree.locate? path).bind tree.node?).bind fun node => node.tables.get? name

/-- A tree comes about from another by additions, and `gain` lies under what there was. -/
structure Gains (before after : Tree) (gain : Content) : Prop where
  grown : before.Grown after
  content : after.content = before.content.overlay gain

theorem Gains.refl (tree : Tree) : tree.Gains tree .empty :=
  ⟨.refl, by simp⟩

theorem Gains.trans {first second third : Tree} {gain gain' : Content}
    (h : first.Gains second gain) (h' : second.Gains third gain') :
    first.Gains third (gain.overlay gain') :=
  ⟨h.grown.trans h'.grown, by rw [h'.content, h.content, Content.overlay_assoc]⟩

theorem content_kind_of_locate? {tree : Tree} {path : List String} {id : NodeId} {node : Node}
    (h : tree.locate? path = some id) (hnode : tree.node? id = some node) :
    tree.content.kind path = some node.kind := by
  simp [content, h, hnode]

theorem content_table_of_locate? {tree : Tree} {path : List String} {id : NodeId} {node : Node}
    (h : tree.locate? path = some id) (hnode : tree.node? id = some node) (name : String) :
    tree.content.table path name = node.tables.get? name := by
  simp [content, h, hnode]

theorem content_of_locate?_none {tree : Tree} {path : List String} (h : tree.locate? path = none) :
    tree.content.kind path = none ∧ ∀ name, tree.content.table path name = none := by
  simp [content, h]

theorem Sound.locate?_node {tree : Tree} (sound : tree.Sound) {path : List String} {id : NodeId}
    (h : tree.locate? path = some id) : ∃ node, tree.node? id = some node :=
  node?_of_lt (sound.locate?_eq_some_iff.mp h).1

theorem content_kind_eq_some {tree : Tree} {path : List String} {kind : NodeKind} :
    tree.content.kind path = some kind ↔ ∃ id node, tree.locate? path = some id ∧
      tree.node? id = some node ∧ node.kind = kind := by
  constructor
  · intro h
    obtain ⟨node, hbind, hkind⟩ := Option.map_eq_some_iff.mp h
    obtain ⟨id, hid, hnode⟩ := Option.bind_eq_some_iff.mp hbind
    exact ⟨id, node, hid, hnode, hkind⟩
  · rintro ⟨id, node, hid, hnode, rfl⟩
    exact content_kind_of_locate? hid hnode

theorem Sound.content_kind_eq_none {tree : Tree} (sound : tree.Sound) {path : List String} :
    tree.content.kind path = none ↔ tree.locate? path = none := by
  cases h : tree.locate? path with
  | none => simp [content, h]
  | some id =>
    obtain ⟨node, hnode⟩ := sound.locate?_node h
    simp [content_kind_of_locate? h hnode]

theorem Sound.content_below_free {tree : Tree} (sound : tree.Sound) {key : String}
    (free : tree.content.kind [key] = none) (rest : List String) :
    tree.content.kind (key :: rest) = none ∧
      ∀ name, tree.content.table (key :: rest) name = none := by
  have hlocate : tree.locate? ([key] ++ rest) = none := by
    rw [locate?_append, sound.content_kind_eq_none.mp free]
    rfl
  exact content_of_locate?_none hlocate

theorem Gains.content_below {before after : Tree} {gain : Content} (gains : before.Gains after gain)
    (sound : before.Sound) {key : String} (free : before.content.kind [key] = none)
    (rest : List String) : after.content.kind (key :: rest) = gain.kind (key :: rest) ∧
      ∀ name, after.content.table (key :: rest) name = gain.table (key :: rest) name := by
  obtain ⟨hkind, htable⟩ := sound.content_below_free free rest
  rw [gains.content]
  simp [Content.overlay, hkind, htable]

theorem Keeps.content_eq {before after : Tree} {gain : Content} (keeps : before.Keeps after)
    (sound : before.Sound)
    (fresh : ∀ path, before.locate? path = none → after.content.kind path = gain.kind path ∧
      ∀ name, after.content.table path name = gain.table path name)
    (tables : ∀ {path id node later}, before.locate? path = some id → before.node? id = some node →
      after.node? id = some later → ∀ name, later.tables.get? name =
        (node.tables.get? name).or (gain.table path name)) :
    after.content = before.content.overlay gain := by
  ext path : 2
  · cases h : before.locate? path with
    | none => simp [Content.overlay, (fresh path h).1, (content_of_locate?_none h).1]
    | some id =>
      obtain ⟨node, hnode⟩ := sound.locate?_node h
      obtain ⟨later, hlater, _, _, _, hkind, _⟩ := keeps hnode
      simp [Content.overlay, content_kind_of_locate? h hnode,
        content_kind_of_locate? (keeps.locate? h) hlater, hkind]
  · funext name
    cases h : before.locate? path with
    | none => simp [Content.overlay, (fresh path h).2, (content_of_locate?_none h).2]
    | some id =>
      obtain ⟨node, hnode⟩ := sound.locate?_node h
      obtain ⟨later, hlater, _⟩ := keeps hnode
      rw [content_table_of_locate? (keeps.locate? h) hlater, tables h hnode hlater]
      simp [Content.overlay, content_table_of_locate? h hnode]

theorem Keeps.not_lt_of_locate?_none {before after : Tree} (keeps : before.Keeps after)
    (sound : before.Sound) (sound' : after.Sound) {path : List String} {id : NodeId}
    (h : before.locate? path = none) (h' : after.locate? path = some id) : ¬id < before.size := by
  intro hlt
  obtain ⟨_, hlineage⟩ := sound'.locate?_eq_some_iff.mp h'
  rw [keeps.lineage sound sound' hlt] at hlineage
  rw [← hlineage, sound.locate?_lineage hlt] at h
  cases h

theorem locate?_addChild_self {tree : Tree} {parent : NodeId} {node : Node} {path : List String}
    {key : String} (found : tree.node? parent = some node) (free : node.children.get? key = none)
    (kind : NodeKind) (hpath : tree.locate? path = some parent) :
    (tree.addChild parent key kind).locate? (path ++ [key]) = some tree.size := by
  have hget : (tree.addChild parent key kind).node? parent =
      some { node with children := node.children.put key tree.size } := by
    rw [node?_addChild found, if_pos rfl]
  rw [locate?_concat, (keeps_addChild found free kind).locate? hpath]
  simp [hget]

theorem content_addChild {tree : Tree} (sound : tree.Sound) {parent : NodeId} {node : Node}
    {place : List String} {name : String} {kind : NodeKind} (found : tree.node? parent = some node)
    (free : node.children.get? (Text.lower name) = none)
    (admitted : tree.Admits parent (Text.lower name) kind)
    (hplace : tree.locate? (place.map Text.lower) = some parent) :
    (tree.addChild parent (Text.lower name) kind).content =
      tree.content.overlay (.ofLists [(place ++ [name], kind)] []) := by
  have sound' := sound.addChild found free (Text.lower_lower name) admitted
  have keeps := keeps_addChild found free kind
  have hself := locate?_addChild_self found free kind hplace
  have hnew : (tree.addChild parent (Text.lower name) kind).node? tree.size =
      some ⟨tree.size, Text.lower name, some parent, kind, [], []⟩ := by
    rw [node?_addChild found, if_neg (Nat.ne_of_gt (node?_lt found)), if_pos rfl]
  apply keeps.content_eq sound
  · intro path hnone
    by_cases eq : place.map Text.lower ++ [Text.lower name] = path
    · subst eq
      rw [content_kind_of_locate? hself hnew]
      refine ⟨by simp [Content.ofLists], ?_⟩
      intro table
      rw [content_table_of_locate? hself hnew]
      rfl
    · have hgone : (tree.addChild parent (Text.lower name) kind).locate? path = none := by
        apply Classical.byContradiction
        intro hsome
        obtain ⟨id, hid⟩ := Option.ne_none_iff_exists'.mp hsome
        have hge := keeps.not_lt_of_locate?_none sound sound' hnone hid
        have hlt := (sound'.locate?_eq_some_iff.mp hid).1
        rw [size_addChild] at hlt
        obtain rfl : id = tree.size := Nat.le_antisymm (Nat.le_of_lt_succ hlt) (Nat.not_lt.mp hge)
        exact eq ((sound'.locate?_eq_some_iff.mp hself).2.symm.trans
          (sound'.locate?_eq_some_iff.mp hid).2)
      obtain ⟨hkind, htables⟩ := content_of_locate?_none hgone
      refine ⟨by simp [hkind, Content.ofLists, eq], ?_⟩
      intro table
      rw [htables table]
      rfl
  · intro path id old later _ hold hlater table
    rcases node?_addChild_data found hlater with ⟨rfl, _⟩ | ⟨old', hold', _, _, _, _, htables⟩
    · exact absurd (node?_lt hold) (Nat.lt_irrefl _)
    · cases Option.some.inj (hold.symm.trans hold')
      simp [htables, Content.ofLists]

theorem content_addTable {tree : Tree} (sound : tree.Sound) {parent : NodeId} {place : List String}
    (hplace : tree.locate? (place.map Text.lower) = some parent) (entry : TableEntry) :
    (tree.addTable parent entry).content = tree.content.overlay (.ofLists [] [(place, entry)]) := by
  obtain ⟨node, found⟩ := sound.locate?_node hplace
  have sound' := sound.addTable found entry
  have keeps := keeps_addTable found entry
  apply keeps.content_eq sound
  · intro path hnone
    have hne : place.map Text.lower ≠ path := by
      rintro rfl
      rw [hplace] at hnone
      cases hnone
    have hgone : (tree.addTable parent entry).locate? path = none := by
      apply Classical.byContradiction
      intro hsome
      obtain ⟨id, hid⟩ := Option.ne_none_iff_exists'.mp hsome
      have hlt := (sound'.locate?_eq_some_iff.mp hid).1
      rw [size_addTable] at hlt
      exact keeps.not_lt_of_locate?_none sound sound' hnone hid hlt
    obtain ⟨hkind, htables⟩ := content_of_locate?_none hgone
    refine ⟨by simp [hkind, Content.ofLists], ?_⟩
    intro table
    simp [htables table, Content.ofLists, hne]
  · intro path id old later hpath hold hlater table
    rw [node?_addTable found] at hlater
    split at hlater
    next eq =>
      subst eq
      cases Option.some.inj hlater
      cases Option.some.inj (hold.symm.trans found)
      have heq : place.map Text.lower = path := by
        rw [← (sound.locate?_eq_some_iff.mp hplace).2, (sound.locate?_eq_some_iff.mp hpath).2]
      rw [NameMap.get?_putNew]
      by_cases hname : entry.name = table <;> simp [Content.ofLists, heq, hname]
    next hne =>
      cases Option.some.inj (hold.symm.trans hlater)
      have hneq : place.map Text.lower ≠ path := by
        rintro rfl
        exact hne (Option.some.inj (hpath.symm.trans hplace))
      simp [Content.ofLists, hneq]

end Tree

end FederatedCatalog
