import FederatedCatalog.Proofs.Compound

namespace FederatedCatalog.Tree

variable {tree : Tree}

theorem locate?_of_append {first second : List String} {id : NodeId}
    (h : tree.locate? (first ++ second) = some id) : ∃ mid, tree.locate? first = some mid := by
  rw [locate?_append] at h
  obtain ⟨mid, hmid, _⟩ := Option.bind_eq_some_iff.mp h
  exact ⟨mid, hmid⟩

theorem Sound.kind_above (sound : tree.Sound) {first second : List String} {kind : NodeKind}
    (h : tree.content.kind (first ++ second) = some kind) :
    tree.content.kind first ≠ none := by
  obtain ⟨id, _, hid, _⟩ := content_kind_eq_some.mp h
  obtain ⟨mid, hmid⟩ := locate?_of_append hid
  rw [Ne, sound.content_kind_eq_none, hmid]
  exact Option.some_ne_none mid

namespace Sound

theorem lineage_ne_nil (sound : tree.Sound) {id : NodeId} (hlt : id < tree.size)
    (hne : id ≠ root) : tree.lineage id ≠ [] := by
  obtain ⟨node, hnode⟩ := node?_of_lt hlt
  obtain ⟨parent, _, hparent, _⟩ := sound.parented hnode hne
  rw [sound.lineage_of_parent? hnode hparent]
  simp

theorem follow_ne_root (sound : tree.Sound) {id : NodeId} (hlt : id < tree.size)
    (hne : id ≠ root) : tree.follow id ≠ root := by
  obtain ⟨node, hnode⟩ := node?_of_lt hlt
  rcases sound.follow_cases hnode with ⟨target, inner, connector, _, heq, hinner, hkind⟩ | ⟨_, heq⟩
  · rw [heq]
    rintro rfl
    rw [(sound.of_root hinner).2] at hkind
    cases hkind
  · rw [heq]
    exact hne

theorem child?_eq_locate? (sound : tree.Sound) {id : NodeId} (hlt : id < tree.size)
    (name : String) : tree.child? id name =
      tree.locate? (tree.lineage (tree.follow id) ++ [Text.lower name]) := by
  rw [locate?_concat, sound.locate?_lineage (sound.follow_lt hlt)]
  rfl

theorem lineage_follow (sound : tree.Sound) {id : NodeId} (hlt : id < tree.size) :
    (∃ outer inner connector, Undotted outer ∧
      tree.lineage id = [compoundName outer inner] ∧
      tree.lineage (tree.follow id) = [outer, inner] ∧
      tree.content.kind [outer, inner] = some (.schema connector)) ∨
    ((∀ target, tree.content.kind (tree.lineage id) ≠ some (.compound target)) ∧
      tree.follow id = id) := by
  obtain ⟨node, hnode⟩ := node?_of_lt hlt
  have hkind := content_kind_of_locate? (sound.locate?_lineage hlt) hnode
  by_cases h : ∃ target, node.kind = .compound target
  · obtain ⟨target, htarget⟩ := h
    rw [htarget] at hkind
    obtain ⟨outer, inner, connector, hpath, hdot, hlocate, hschema⟩ := sound.compound_path hkind
    refine Or.inl ⟨outer, inner, connector, hdot, hpath, ?_, hschema⟩
    rw [sound.follow_of_compound hnode htarget]
    exact (sound.locate?_eq_some_iff.mp hlocate).2
  · refine Or.inr ⟨?_, follow_of_kind hnode fun target eq => h ⟨target, eq⟩⟩
    intro target eq
    exact h ⟨target, Option.some.inj (hkind.symm.trans eq)⟩

theorem follow_child (sound : tree.Sound) {parent id : NodeId} {name : String}
    (hlt : parent < tree.size) (hne : parent ≠ root) (h : tree.child? parent name = some id) :
    tree.follow id = id := by
  rw [sound.child?_eq_locate? hlt] at h
  apply sound.follow_of_locate? h
  intro outer inner eq
  have hlength := congrArg List.length eq
  have hpos := List.length_pos_iff.mpr
    (sound.lineage_ne_nil (sound.follow_lt hlt) (sound.follow_ne_root hlt hne))
  simp only [List.length_append, List.length_singleton] at hlength
  omega

/-- A walk from below the root looks into the node it starts from, and from there it goes along the
children's own names. -/
theorem walk?_eq_locate? (sound : tree.Sound) {id : NodeId} (hlt : id < tree.size)
    (hne : id ≠ root) {names : List String} (h : names ≠ []) : tree.walk? id names =
      tree.locate? (tree.lineage (tree.follow id) ++ names.map Text.lower) := by
  induction names generalizing id with
  | nil => exact absurd rfl h
  | cons name rest ih =>
    have hchild := sound.child?_eq_locate? hlt name
    have hsplit : tree.lineage (tree.follow id) ++ (name :: rest).map Text.lower =
        (tree.lineage (tree.follow id) ++ [Text.lower name]) ++ rest.map Text.lower := by
      simp
    rw [walk?, hsplit, locate?_append, ← hchild]
    cases hc : tree.child? id name with
    | none => rfl
    | some child =>
      simp only [Option.bind_some]
      cases rest with
      | nil => rfl
      | cons next rest =>
        have hltc := sound.child?_lt hc
        have hlineage := (sound.locate?_eq_some_iff.mp (hchild.symm.trans hc)).2
        have hbelow := ih hltc (sound.child?_ne_root hc) (List.cons_ne_nil next rest)
        rw [hbelow, sound.follow_child hlt hne hc, locate?_append, sound.locate?_lineage hltc]
        rfl

end Sound

theorem Keeps.locate?_eq {before after : Tree} (keeps : before.Keeps after) (sound : before.Sound)
    (sound' : after.Sound) {path : List String}
    (h : after.content.kind path = before.content.kind path) :
    after.locate? path = before.locate? path := by
  cases hpath : before.locate? path with
  | some id => exact keeps.locate? hpath
  | none =>
    rw [← sound'.content_kind_eq_none, h, sound.content_kind_eq_none]
    exact hpath

/-- The path of what is found along names from the root. Whoever looks below a compound node looks
below its target. -/
def readAt (tree : Tree) : List String → List String
  | [] => []
  | name :: rest =>
    match tree.content.kind [Text.lower name] with
    | some (.compound target) => tree.lineage target ++ rest.map Text.lower
    | _ => (name :: rest).map Text.lower

theorem Sound.readAt_of_locate? (sound : tree.Sound) {name : String} {id : NodeId}
    (h : tree.locate? [Text.lower name] = some id) (rest : List String) :
    tree.readAt (name :: rest) = tree.lineage (tree.follow id) ++ rest.map Text.lower := by
  obtain ⟨node, hnode⟩ := sound.locate?_node h
  have hkind := content_kind_of_locate? h hnode
  rcases sound.follow_cases hnode with ⟨target, _, _, hcompound, hfollow, _⟩ | ⟨hne, hfollow⟩
  · simp only [readAt, hkind, hcompound, hfollow]
  · rw [hfollow, (sound.locate?_eq_some_iff.mp h).2]
    simp only [readAt, hkind]
    split
    next target heq => exact absurd (Option.some.inj heq) (hne target)
    next => rfl

theorem Sound.readAt_cases (sound : tree.Sound) (names : List String) :
    tree.readAt names = names.map Text.lower ∨ 1 < (tree.readAt names).length := by
  cases names with
  | nil => exact Or.inl rfl
  | cons name rest =>
    simp only [readAt]
    split
    next target hkind =>
      obtain ⟨_, _, _, _, _, htarget, _⟩ := sound.compound_path hkind
      rw [(sound.locate?_eq_some_iff.mp htarget).2]
      exact Or.inr (by simp)
    next => exact Or.inl rfl

/-- Along names from the root one comes to the node at the path where they are read. -/
theorem Sound.follow_walk? (sound : tree.Sound) (names : List String) :
    (tree.walk? root names).map tree.follow = tree.locate? (tree.readAt names) := by
  cases names with
  | nil => exact congrArg some sound.follow_root
  | cons name rest =>
    rw [walk?, child?_root sound]
    cases hid : tree.locate? [Text.lower name] with
    | none =>
      have hnone : tree.locate? ([Text.lower name] ++ rest.map Text.lower) = none := by
        rw [locate?_append, hid]
        rfl
      simp only [readAt, sound.content_kind_eq_none.mpr hid]
      exact hnone.symm
    | some id =>
      have hlt := (sound.locate?_eq_some_iff.mp hid).1
      have hne := sound.ne_root_of_locate? hid (List.cons_ne_nil _ _)
      rw [sound.readAt_of_locate? hid, Option.bind_some]
      cases rest with
      | nil =>
        rw [List.map_nil, List.append_nil, sound.locate?_lineage (sound.follow_lt hlt)]
        rfl
      | cons next rest =>
        rw [sound.walk?_eq_locate? hlt hne (List.cons_ne_nil next rest)]
        cases hfound : tree.locate? (tree.lineage (tree.follow id) ++
          (next :: rest).map Text.lower) with
        | none => rfl
        | some found =>
          refine congrArg some (sound.follow_of_locate? hfound ?_)
          intro outer inner eq
          have hlength := congrArg List.length eq
          have hpos := List.length_pos_iff.mpr
            (sound.lineage_ne_nil (sound.follow_lt hlt) (sound.follow_ne_root hlt hne))
          simp only [List.length_append, List.length_map, List.length_cons,
            List.length_nil] at hlength
          omega

theorem Sound.table?_walk? (sound : tree.Sound) (names : List String) (name : String) :
    ((tree.walk? root names).bind fun id => tree.table? id name true) =
      tree.content.table (tree.readAt names) name := by
  have hread := sound.follow_walk? names
  simp only [content, ← hread, table?, Node.table?_exact]
  cases tree.walk? root names <;> rfl

end FederatedCatalog.Tree
