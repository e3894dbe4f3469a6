import FederatedCatalog.Proofs.Addition

namespace FederatedCatalog.Tree

variable {tree : Tree}

/-- A compound node is a child of the root, and its name is made of the two names on its target's
path. -/
theorem Sound.compound_path (sound : tree.Sound) {path : List String} {target : NodeId}
    (h : tree.content.kind path = some (.compound target)) : ∃ outer inner connector,
    path = [compoundName outer inner] ∧ Undotted outer ∧
    tree.locate? [outer, inner] = some target ∧
    tree.content.kind [outer, inner] = some (.schema connector) := by
  obtain ⟨id, node, hid, hnode, hkind⟩ := content_kind_eq_some.mp h
  obtain ⟨hroot, _, inner, outer, above, connector, hinner, hschema, hup, habove, htop, hdot,
    hname⟩ := sound.wrapped hnode hkind
  have hpath : tree.lineage id = [compoundName above.name inner.name] := by
    rw [sound.lineage_of_parent? hnode hroot, sound.lineage_root, hname]
    rfl
  have htarget : tree.lineage target = [above.name, inner.name] := by
    rw [sound.lineage_of_parent? hinner hup, sound.lineage_of_parent? habove htop,
      sound.lineage_root]
    rfl
  have hlocate : tree.locate? [above.name, inner.name] = some target :=
    sound.locate?_eq_some_iff.mpr ⟨node?_lt hinner, htarget⟩
  refine ⟨above.name, inner.name, connector, ?_, hdot, hlocate, ?_⟩
  · rw [← (sound.locate?_eq_some_iff.mp hid).2, hpath]
  · rw [content_kind_of_locate? hlocate hinner, hschema]

theorem Sound.compound_target (sound : tree.Sound) {outer inner : String} {target : NodeId}
    (dotless : Undotted outer)
    (h : tree.content.kind [compoundName outer inner] = some (.compound target)) :
    tree.locate? [outer, inner] = some target := by
  obtain ⟨outer', inner', _, hpath, dotless', htarget, _⟩ := sound.compound_path h
  obtain ⟨rfl, rfl⟩ := compoundName_inj dotless dotless' (List.singleton_inj.mp hpath)
  exact htarget

theorem Sound.not_compound (sound : tree.Sound) {path : List String}
    (h : ∀ outer inner, path ≠ [compoundName outer inner]) (target : NodeId) :
    tree.content.kind path ≠ some (.compound target) := by
  intro hkind
  obtain ⟨outer, inner, _, hpath, _⟩ := sound.compound_path hkind
  exact h outer inner hpath

theorem Sound.follow_of_locate? (sound : tree.Sound) {path : List String} {id : NodeId}
    (hpath : tree.locate? path = some id) (h : ∀ outer inner, path ≠ [compoundName outer inner]) :
    tree.follow id = id := by
  obtain ⟨node, hnode⟩ := sound.locate?_node hpath
  apply follow_of_kind hnode
  intro target hkind
  apply sound.not_compound h target
  rw [content_kind_of_locate? hpath hnode, hkind]

theorem ne_compoundName_of_undotted {name : String} (h : Undotted name) (outer inner : String) :
    [name] ≠ [compoundName outer inner] := by
  intro eq
  exact not_undotted_compoundName outer inner (List.singleton_inj.mp eq ▸ h)

theorem ne_compoundName_of_below (first second : String) (rest : List String)
    (outer inner : String) : first :: second :: rest ≠ [compoundName outer inner] := by
  simp

theorem Sound.follow_of_undotted (sound : tree.Sound) {name : String} {id : NodeId}
    (hpath : tree.locate? [name] = some id) (dotless : Undotted name) : tree.follow id = id :=
  sound.follow_of_locate? hpath (ne_compoundName_of_undotted dotless)

theorem get?_children_of_locate? {path : List String} {id : NodeId}
    (hpath : tree.locate? path = some id) (hfollow : tree.follow id = id) (key : String) :
    (tree.children id).get? key = tree.locate? (path ++ [key]) := by
  rw [locate?_concat, hpath, children, hfollow]
  cases h : tree.node? id <;> simp [h, NameMap.get?]

theorem Sound.sorted_children (sound : tree.Sound) (id : NodeId) : (tree.children id).Sorted := by
  unfold children
  cases h : tree.node? (tree.follow id) with
  | none => exact List.Pairwise.nil
  | some node => exact (sound.ordered h).1

theorem uncompoundable?_eq_none {parent : NodeId} : tree.uncompoundable? parent = none ↔
    ∀ entry ∈ tree.children parent, ∀ {node}, tree.node? entry.2 = some node →
      isCompoundable node.kind := by
  rw [uncompoundable?, List.findSome?_eq_none_iff]
  constructor
  · intro h entry hm node hnode
    have hentry := h entry hm
    simp only [hnode] at hentry
    split at hentry
    next hc => exact hc
    next => cases hentry
  · intro h entry hm
    cases hnode : tree.node? entry.2 with
    | none => rfl
    | some node => simp [h entry hm hnode]

def kindOf? (tree : Tree) (id : NodeId) : Option NodeKind :=
  (tree.node? id).map Node.kind

theorem Gains.compound_iff {before after : Tree} {gain : Content} (gains : before.Gains after gain)
    (sound : before.Sound) (plain : ∀ path target, gain.kind path ≠ some (.compound target))
    {id target : NodeId} :
    after.kindOf? id = some (.compound target) ↔ before.kindOf? id = some (.compound target) := by
  have keeps := gains.grown.keeps
  constructor
  · intro h
    obtain ⟨node, hnode, hkind⟩ := Option.map_eq_some_iff.mp h
    have hpath := (sound.of_grown gains.grown).locate?_lineage (node?_lt hnode)
    have hcontent := content_kind_of_locate? hpath hnode
    rw [hkind, gains.content] at hcontent
    -- The node is told by its path, along which there is a compound node already.
    rcases Option.or_eq_some_iff.mp hcontent with hbefore | ⟨_, hgain⟩
    · obtain ⟨id', node', hid', hnode', hkind'⟩ := content_kind_eq_some.mp hbefore
      cases Option.some.inj ((keeps.locate? hid').symm.trans hpath)
      rw [kindOf?, hnode', Option.map_some, hkind']
    · exact absurd hgain (plain _ target)
  · intro h
    obtain ⟨node, hnode, hkind⟩ := Option.map_eq_some_iff.mp h
    obtain ⟨later, hlater, _, _, _, hsame, _⟩ := keeps hnode
    rw [kindOf?, hlater, Option.map_some, hsame, hkind]

def kindsBelow (tree : Tree) (parent : NodeId) : NameMap (Option NodeKind) :=
  (tree.children parent).map fun entry => (entry.1, tree.kindOf? entry.2)

theorem uncompoundable?_eq_findSome? (tree : Tree) (parent : NodeId) :
    tree.uncompoundable? parent = (tree.kindsBelow parent).findSome? fun entry =>
      entry.2.bind fun kind => if isCompoundable kind then none else some (entry.1, kind) := by
  rw [uncompoundable?, kindsBelow, List.findSome?_map]
  congr 1
  funext entry
  cases h : tree.node? entry.2 <;> simp [kindOf?, h]

theorem get?_kindsBelow (sound : tree.Sound) {path : List String} {parent : NodeId}
    (hparent : tree.locate? path = some parent) (hfollow : tree.follow parent = parent)
    (key : String) : (tree.kindsBelow parent).get? key =
      (tree.content.kind (path ++ [key])).map some := by
  rw [kindsBelow, NameMap.get?_map_value key tree.kindOf?,
    get?_children_of_locate? hparent hfollow]
  cases hkey : tree.locate? (path ++ [key]) with
  | none =>
    rw [sound.content_kind_eq_none.mpr hkey]
    rfl
  | some id =>
    obtain ⟨node, hnode⟩ := sound.locate?_node hkey
    simp [content_kind_of_locate? hkey hnode, kindOf?, hnode]

theorem uncompoundable?_congr {first second : Tree} (sound : first.Sound) (sound' : second.Sound)
    {path path' : List String} {parent parent' : NodeId}
    (hparent : first.locate? path = some parent) (hfollow : first.follow parent = parent)
    (hparent' : second.locate? path' = some parent') (hfollow' : second.follow parent' = parent')
    (same : ∀ key, first.content.kind (path ++ [key]) = second.content.kind (path' ++ [key])) :
    first.uncompoundable? parent = second.uncompoundable? parent' := by
  have below : first.kindsBelow parent = second.kindsBelow parent' := by
    apply NameMap.ext_of_sorted
    · exact NameMap.sorted_map_value first.kindOf? (sound.sorted_children parent)
    · exact NameMap.sorted_map_value second.kindOf? (sound'.sorted_children parent')
    · intro key
      rw [get?_kindsBelow sound hparent hfollow, get?_kindsBelow sound' hparent' hfollow', same]
  rw [uncompoundable?_eq_findSome?, uncompoundable?_eq_findSome?, below]

theorem Sound.first_level (sound : tree.Sound) {name : String} {id : NodeId} {node : Node}
    (hid : tree.locate? [name] = some id) (hnode : tree.node? id = some node) :
    node.parent? = some root ∧ node.name = name := by
  have hlineage := (sound.locate?_eq_some_iff.mp hid).2
  have hne := sound.ne_root_of_locate? hid (List.cons_ne_nil name [])
  obtain ⟨up, above, hup, _, habove, _⟩ := sound.parented hnode hne
  rw [sound.lineage_of_parent? hnode hup] at hlineage
  have hlength := congrArg List.length hlineage
  have hroot : up = root := by
    apply Classical.byContradiction
    intro hnot
    obtain ⟨up', _, hup', _⟩ := sound.parented habove hnot
    rw [sound.lineage_of_parent? habove hup'] at hlength
    simp at hlength
  subst hroot
  rw [sound.lineage_root] at hlineage
  exact ⟨hup, List.singleton_inj.mp hlineage⟩

theorem Sound.entry_cases (sound : tree.Sound) {parent : NodeId} {above : Node}
    (habove : tree.node? parent = some above) (below : parent ≠ root)
    (hfollow : tree.follow parent = parent) {entry : String × NodeId}
    (hm : entry ∈ tree.children parent) : ∃ node, tree.node? entry.2 = some node ∧
      node.name = entry.1 ∧ node.parent? = some parent ∧
      ((∃ connector, node.kind = .schema connector) ∨
        ∃ typeName, node.kind = .foreign typeName) := by
  have hget := NameMap.get?_of_mem (sound.sorted_children parent) hm
  rw [children_of_follow habove hfollow] at hget
  obtain ⟨node, hnode, hname, hup⟩ := sound.listed habove hget
  refine ⟨node, hnode, hname, hup, ?_⟩
  cases hkind : node.kind with
  | schema connector => exact Or.inl ⟨connector, rfl⟩
  | «foreign» typeName => exact Or.inr ⟨typeName, rfl⟩
  | root =>
    obtain ⟨top, htop, _, hnone, _⟩ := sound.rooted
    rw [sound.rootOnly hnode hkind, htop] at hnode
    rw [← Option.some.inj hnode, hnone] at hup
    cases hup
  | compound target =>
    have hroot := (sound.wrapped hnode hkind).1
    exact absurd (Option.some.inj (hup.symm.trans hroot)) below

theorem Sound.wraps_of_compoundable (sound : tree.Sound) {outer : String} {parent : NodeId}
    (hparent : tree.locate? [outer] = some parent) (dotless : Undotted outer)
    (hall : tree.uncompoundable? parent = none) {entry : String × NodeId}
    (hm : entry ∈ tree.children parent) : tree.Wraps (compoundName outer entry.1) entry.2 ∧
      Text.lower (compoundName outer entry.1) = compoundName outer entry.1 := by
  obtain ⟨above, habove⟩ := sound.locate?_node hparent
  have hne := sound.ne_root_of_locate? hparent (List.cons_ne_nil outer [])
  obtain ⟨hupper, houter⟩ := sound.first_level hparent habove
  obtain ⟨node, hnode, hname, hup, ⟨connector, hkind⟩ | ⟨typeName, hkind⟩⟩ :=
    sound.entry_cases habove hne (sound.follow_of_undotted hparent dotless) hm
  · refine ⟨⟨node, parent, above, connector, hnode, hkind, hup, habove, hupper, ?_, ?_⟩, ?_⟩
    · rw [houter]
      exact dotless
    · rw [houter, hname]
    · apply lower_compoundName
      · rw [← houter]
        exact sound.lowered habove
      · rw [← hname]
        exact sound.lowered hnode
  · have hcompoundable := uncompoundable?_eq_none.mp hall entry hm hnode
    simp [hkind, isCompoundable] at hcompoundable

theorem ensureCompounds_gains (sound : tree.Sound) {outer : String}
    {entries : List (String × NodeId)}
    (hentries : ∀ entry ∈ entries, tree.Wraps (compoundName outer entry.1) entry.2 ∧
      Text.lower (compoundName outer entry.1) = compoundName outer entry.1) :
    tree.Gains
      (entries.foldl (fun tree entry =>
        (tree.ensureChild root (compoundName outer entry.1) (.compound entry.2)).1) tree)
      (.ofLists (entries.map fun entry =>
        ([compoundName outer entry.1], .compound entry.2)) []) := by
  induction entries generalizing tree with
  | nil => exact Gains.refl tree
  | cons entry rest ih =>
    obtain ⟨wraps, hlower⟩ := hentries entry (by simp)
    have admitted : tree.Admits root (Text.lower (compoundName outer entry.1))
        (.compound entry.2) := ⟨rfl, by rw [hlower]; exact wraps⟩
    have first := (ensureChild_gains sound [] (compoundName outer entry.1) rfl admitted).1
    have others := ih (sound.of_grown first.grown) fun other hm =>
      ⟨first.grown.keeps.wraps (hentries other (List.mem_cons_of_mem entry hm)).1,
        (hentries other (List.mem_cons_of_mem entry hm)).2⟩
    have both := first.trans others
    rw [← Content.ofLists_append] at both
    exact both

/-- Making compound nodes adds to the root a name for each child of the schema. -/
theorem addCompounds_gains (sound : tree.Sound) {outer : String} {parent : NodeId}
    (hparent : tree.locate? [outer] = some parent) (dotless : Undotted outer)
    (hall : tree.uncompoundable? parent = none) : tree.Gains (tree.addCompounds outer parent)
      (.ofLists ((tree.children parent).map fun entry =>
        ([compoundName outer entry.1], .compound entry.2)) []) :=
  ensureCompounds_gains sound fun _ hm => sound.wraps_of_compoundable hparent dotless hall hm

/-- A later tree in which the same is at each path, but for children that the root may have
gained. -/
structure SameBelow (tree after : Tree) : Prop where
  grown : tree.Grown after
  kind : ∀ path, path.length ≠ 1 → after.content.kind path = tree.content.kind path
  table : ∀ path name, after.content.table path name = tree.content.table path name

theorem SameBelow.refl (tree : Tree) : tree.SameBelow tree :=
  ⟨.refl, fun _ _ => rfl, fun _ _ => rfl⟩

theorem SameBelow.trans {mid after : Tree} (h : tree.SameBelow mid) (h' : mid.SameBelow after) :
    tree.SameBelow after where
  grown := h.grown.trans h'.grown
  kind := fun path hpath => (h'.kind path hpath).trans (h.kind path hpath)
  table := fun path name => (h'.table path name).trans (h.table path name)

section AddCompounds

variable {outer : String} {parent : NodeId}

theorem addCompounds_table (sound : tree.Sound) (hparent : tree.locate? [outer] = some parent)
    (dotless : Undotted outer) (hall : tree.uncompoundable? parent = none) (path : List String)
    (name : String) :
    (tree.addCompounds outer parent).content.table path name = tree.content.table path name := by
  rw [(addCompounds_gains sound hparent dotless hall).content]
  simp [Content.overlay, Content.ofLists]

theorem addCompounds_kind_of_ne (sound : tree.Sound) (hparent : tree.locate? [outer] = some parent)
    (dotless : Undotted outer) (hall : tree.uncompoundable? parent = none) {path : List String}
    (h : ∀ inner, path ≠ [compoundName outer inner]) :
    (tree.addCompounds outer parent).content.kind path = tree.content.kind path := by
  rw [(addCompounds_gains sound hparent dotless hall).content]
  have hnone : ((tree.children parent).map fun entry =>
      ([compoundName outer entry.1], NodeKind.compound entry.2)).find?
      (fun schema => schema.1.map Text.lower = path) = none := by
    rw [List.find?_eq_none]
    intro schema hm
    obtain ⟨entry, hentry, rfl⟩ := List.mem_map.mp hm
    have hlower := (sound.wraps_of_compoundable hparent dotless hall hentry).2
    simpa [hlower] using fun eq : [compoundName outer entry.1] = path => h entry.1 eq.symm
  simp only [Content.overlay, Content.ofLists, hnone, Option.map_none, Option.or_none]

theorem addCompounds_kind (sound : tree.Sound) (hparent : tree.locate? [outer] = some parent)
    (dotless : Undotted outer) (hall : tree.uncompoundable? parent = none) (inner : String) :
    (tree.addCompounds outer parent).content.kind [compoundName outer inner] =
      (tree.content.kind [compoundName outer inner]).or
        ((tree.locate? [outer, inner]).map .compound) := by
  have hfollow := sound.follow_of_undotted hparent dotless
  have hget := get?_children_of_locate? hparent hfollow inner
  have hfind : ∀ {entries : List (String × NodeId)}, (∀ entry ∈ entries,
      Text.lower (compoundName outer entry.1) = compoundName outer entry.1) →
      ((entries.map fun entry => ([compoundName outer entry.1], NodeKind.compound entry.2)).find?
        fun schema => schema.1.map Text.lower = [compoundName outer inner]).map Prod.snd =
      (NameMap.get? inner entries).map .compound := by
    intro entries hlower
    induction entries with
    | nil => rfl
    | cons entry rest ih =>
      have hrest := ih fun other hm => hlower other (List.mem_cons_of_mem entry hm)
      have hkey := hlower entry (by simp)
      by_cases eq : entry.1 = inner
      · rw [eq] at hkey
        simp [NameMap.get?, eq, hkey]
      · have hne : compoundName outer entry.1 ≠ compoundName outer inner :=
          fun h => eq (compoundName_inj dotless dotless h).2
        simpa [NameMap.get?, eq, hkey, hne] using hrest
  have hentries := hfind fun entry hm =>
    (sound.wraps_of_compoundable hparent dotless hall hm).2
  rw [(addCompounds_gains sound hparent dotless hall).content]
  simp only [Content.overlay, Content.ofLists, hentries, hget]
  rfl

theorem addCompounds_kind_cases (sound : tree.Sound) (hparent : tree.locate? [outer] = some parent)
    (dotless : Undotted outer) (hall : tree.uncompoundable? parent = none) {path : List String}
    {kind : NodeKind} (h : (tree.addCompounds outer parent).content.kind path = some kind) :
    tree.content.kind path = some kind ∨ ∃ target, kind = .compound target := by
  rw [(addCompounds_gains sound hparent dotless hall).content] at h
  rcases Option.or_eq_some_iff.mp h with h | ⟨_, h⟩
  · exact Or.inl h
  · obtain ⟨place, hm, _⟩ := Content.mem_of_ofLists_kind h
    obtain ⟨entry, _, heq⟩ := List.mem_map.mp hm
    exact Or.inr ⟨entry.2, (congrArg Prod.snd heq).symm⟩

theorem addCompounds_sameBelow (sound : tree.Sound) (hparent : tree.locate? [outer] = some parent)
    (dotless : Undotted outer) (hall : tree.uncompoundable? parent = none) :
    tree.SameBelow (tree.addCompounds outer parent) := by
  refine ⟨(addCompounds_gains sound hparent dotless hall).grown, ?_,
    addCompounds_table sound hparent dotless hall⟩
  intro path hlength
  apply addCompounds_kind_of_ne sound hparent dotless hall
  rintro inner rfl
  exact hlength rfl

end AddCompounds

end FederatedCatalog.Tree
