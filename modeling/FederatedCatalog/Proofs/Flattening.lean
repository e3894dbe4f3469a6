import FederatedCatalog.Proofs.Atomicity
import FederatedCatalog.Proofs.Tidy

namespace FederatedCatalog

namespace Tree

variable {tree : Tree} {outer : String} {parent : NodeId}

/-- The first child of a foreign type, in the order of the children's names. -/
structure FirstForeign (tree : Tree) (parent : NodeId) (name typeName : String) : Prop where
  is_foreign : ∃ id, (name, id) ∈ tree.children parent ∧
    tree.kindOf? id = some (.foreign typeName)
  least : ∀ entry ∈ tree.children parent, ∀ {other},
    tree.kindOf? entry.2 = some (.foreign other) → name ≤ entry.1

theorem Sound.firstForeign (sound : tree.Sound) (hparent : tree.locate? [outer] = some parent)
    (dotless : Undotted outer) {name : String} {kind : NodeKind}
    (h : tree.uncompoundable? parent = some (name, kind)) :
    tree.FirstForeign parent name kind.typeName := by
  obtain ⟨above, habove⟩ := sound.locate?_node hparent
  have hne := sound.ne_root_of_locate? hparent (List.cons_ne_nil outer [])
  have hfollow := sound.follow_of_undotted hparent dotless
  obtain ⟨entry, hm, hentry, hleast⟩ :=
    NameMap.least_of_findSome? (sound.sorted_children parent) h
  obtain ⟨node, hnode, _, _, ⟨connector, hkind⟩ | ⟨typeName, hkind⟩⟩ :=
    sound.entry_cases habove hne hfollow hm
  · simp [hnode, hkind, isCompoundable] at hentry
  · simp only [hnode, hkind, isCompoundable, Bool.false_eq_true, if_false, Option.some.injEq,
      Prod.mk.injEq] at hentry
    obtain ⟨rfl, rfl⟩ := hentry
    refine ⟨⟨entry.2, hm, by rw [kindOf?, hnode, Option.map_some, hkind]; rfl⟩, ?_⟩
    intro other hother otherType hforeign
    obtain ⟨node', hnode', hkind'⟩ := Option.map_eq_some_iff.mp hforeign
    rcases hleast other hother (by simp [hnode', hkind', isCompoundable]) with rfl | hlt
    · exact String.le_refl other.1
    · exact String.not_lt.mp (String.lt_asymm hlt)

theorem mem_children_of_child? {name : String} {child : NodeId}
    (h : tree.child? parent name = some child) :
    (Text.lower name, child) ∈ tree.children parent := by
  obtain ⟨node, hnode, hget⟩ := Option.bind_eq_some_iff.mp h
  rw [children, hnode]
  exact NameMap.mem_of_get? hget

/-- A child of the root has compound names for all of its children, each of which is a schema that a
connector registered. -/
def Flattened (tree : Tree) (outer : String) (parent : NodeId) : Prop :=
  ∀ entry ∈ tree.children parent,
    (∃ connector, tree.kindOf? entry.2 = some (.schema connector)) ∧
    ∃ id, tree.child? root (compoundName outer entry.1) = some id

theorem addCompounds_flattened (sound : tree.Sound) (hparent : tree.locate? [outer] = some parent)
    (dotless : Undotted outer) (hall : tree.uncompoundable? parent = none) :
    (tree.addCompounds outer parent).Flattened outer parent := by
  intro entry hm
  have same := addCompounds_sameBelow sound hparent dotless hall
  have sound' := sound.of_grown same.grown
  have hparent' := same.grown.keeps.locate? hparent
  have hne := sound'.ne_root_of_locate? hparent' (List.cons_ne_nil outer [])
  have hfollow' := sound'.follow_of_undotted hparent' dotless
  obtain ⟨above, habove⟩ := sound'.locate?_node hparent'
  obtain ⟨node, hnode, hname, _, hkind⟩ := sound'.entry_cases habove hne hfollow' hm
  -- The child was there before the compound nodes were made.
  have hentry : (tree.addCompounds outer parent).locate? [outer, entry.1] = some entry.2 := by
    have hget := NameMap.get?_of_mem (sound'.sorted_children parent) hm
    rw [get?_children_of_locate? hparent' hfollow'] at hget
    exact hget
  have hsame := same.kind [outer, entry.1] (by simp)
  have hbefore : tree.locate? [outer, entry.1] = some entry.2 :=
    (same.grown.keeps.locate?_eq sound sound' hsame).symm.trans hentry
  constructor
  · have hcompoundable := (sound.uncompoundable?_none hparent dotless).mp hall
      (hsame.symm.trans (content_kind_of_locate? hentry hnode))
    rcases hkind with ⟨connector, hkind⟩ | ⟨typeName, hkind⟩
    · exact ⟨connector, by rw [kindOf?, hnode, Option.map_some, hkind]⟩
    · simp [hkind, isCompoundable] at hcompoundable
  · have hlowered := sound'.map_lower_of_locate? hentry
    simp only [List.map_cons, List.map_nil, List.cons.injEq, and_true] at hlowered
    rw [child?_root sound', lower_compoundName hlowered.1 hlowered.2,
      ← Option.ne_none_iff_exists', Ne, ← sound'.content_kind_eq_none,
      addCompounds_kind sound hparent dotless hall, hbefore]
    simp

end Tree

namespace LookupState

variable {state : LookupState} {context : LookupContext}

theorem load_compound (state : LookupState) (context : LookupContext) {outer inner : String}
    {connector : Connector} (ho : Undotted outer) (hi : Undotted inner)
    (lo : Text.lower outer = outer)
    (unserved : state.registry.enabled? (Tree.compoundName outer inner) = none)
    (serves : state.registry.enabled? outer = some connector) :
    (∃ failure, (state.load context (Tree.compoundName outer inner)).answer =
      .error (.load failure)) ∨
    ((state.load context (Tree.compoundName outer inner)).answer = .ok () ∧
      (state.load context (Tree.compoundName outer inner)).after.tree.child? Tree.root outer =
        none) ∨
    ∃ mid parent, Prepared context state (some (Tree.compoundName outer inner)) outer mid ∧
      mid.tree.child? Tree.root outer = some parent ∧
      state.load context (Tree.compoundName outer inner) = mid.flatten outer parent := by
  simp only [load, unserved, Tree.dotted_compoundName ho hi, serves]
  rcases state.firstLevel_cases context (Tree.compoundName outer inner) lo serves with
    ⟨parent, mid, hrun, prepared, found⟩ | ⟨mid, hrun, missing, _⟩ | ⟨failure, mid, hrun, _⟩
  · rw [hrun]
    exact Or.inr (Or.inr ⟨mid, parent, prepared, found, rfl⟩)
  · rw [hrun]
    exact Or.inr (Or.inl ⟨rfl, missing⟩)
  · rw [hrun]
    exact Or.inl ⟨failure, rfl⟩

theorem Prepared.compound_iff {asked? : Option String} {name : String} {mid : LookupState}
    (prepared : Prepared context state asked? name mid) (sound : state.tree.Sound)
    {id target : NodeId} : mid.tree.kindOf? id = some (.compound target) ↔
      state.tree.kindOf? id = some (.compound target) := by
  rcases prepared.tree_cases with htree | ⟨connector, _, merges⟩
  · rw [htree]
  · exact merges.compound_iff sound

/-- Where the lookup ends of a compound name that is not at the root and that no connector bears. -/
inductive FlattenEnd (state after : LookupState) (outer inner : String) :
    Except LookupError (Option NodeId) → Prop
  | failed (failure : LoadFailure) : FlattenEnd state after outer inner (.error (.load failure))
  | missing (gone : after.tree.child? Tree.root outer = none) :
      FlattenEnd state after outer inner
        (.ok (after.tree.child? Tree.root (Tree.compoundName outer inner)))
  | refused {parent : NodeId} {first typeName : String}
      (found : after.tree.child? Tree.root outer = some parent)
      (blamed : after.tree.FirstForeign parent first typeName)
      (same : ∀ id target, after.tree.kindOf? id = some (.compound target) ↔
        state.tree.kindOf? id = some (.compound target)) :
      FlattenEnd state after outer inner
        (.error (.unexpectedSchema (Tree.compoundName outer first) typeName outer))
  | complete {parent : NodeId} (found : after.tree.child? Tree.root outer = some parent)
      (flattened : after.tree.Flattened outer parent) :
      FlattenEnd state after outer inner
        (.ok (after.tree.child? Tree.root (Tree.compoundName outer inner)))

theorem Prepared.flattenEnd {asked? : Option String} {outer : String} {mid : LookupState}
    {parent : NodeId} (prepared : Prepared context state asked? outer mid)
    (sound : state.tree.Sound) (dotless : Undotted outer) (lowered : Text.lower outer = outer)
    (found : mid.tree.child? Tree.root outer = some parent) (inner : String) :
    FlattenEnd state (mid.flatten outer parent).after outer inner
      ((mid.flatten outer parent).read fun _ tree =>
        tree.child? Tree.root (Tree.compoundName outer inner)).answer := by
  have soundMid := prepared.course.steps.sound sound
  have hparent : mid.tree.locate? [outer] = some parent := by
    rw [Tree.child?_root soundMid, lowered] at found
    exact found
  unfold flatten
  cases blamed : mid.tree.uncompoundable? parent with
  | some entry =>
    simp only [LookupRun.read, Except.map, soundMid.fullName_of_child lowered found]
    exact .refused found (soundMid.firstForeign hparent dotless blamed)
      fun id target => prepared.compound_iff sound
  | none =>
    have flattened := Tree.addCompounds_flattened soundMid hparent dotless blamed
    have grown := (Tree.addCompounds_sameBelow soundMid hparent dotless blamed).grown
    refine .complete ?_ flattened
    rw [Tree.child?_root (soundMid.of_grown grown), lowered]
    exact grown.keeps.locate? hparent

theorem findSchema_flattenEnd (context : LookupContext) {outer inner : String}
    {connector : Connector} (ho : Undotted outer) (hi : Undotted inner)
    (lo : Text.lower outer = outer) (li : Text.lower inner = inner)
    (sound : state.tree.Sound)
    (free : state.tree.child? Tree.root (Tree.compoundName outer inner) = none)
    (unserved : state.registry.enabled? (Tree.compoundName outer inner) = none)
    (serves : state.registry.enabled? outer = some connector) :
    FlattenEnd state (state.findSchema context (Tree.compoundName outer inner)).after outer inner
      (state.findSchema context (Tree.compoundName outer inner)).answer := by
  simp only [findSchema, Tree.lower_compoundName lo li, free]
  rcases state.load_compound context ho hi lo unserved serves with
    ⟨failure, failed⟩ | ⟨done, missing⟩ | ⟨mid, parent, prepared, found, flattened⟩
  · simp only [LookupRun.read, failed, Except.map]
    exact .failed failure
  · simp only [LookupRun.read, done, Except.map]
    exact .missing missing
  · rw [flattened]
    exact prepared.flattenEnd sound ho lo found inner

end LookupState

/-- A compound name that is not at the root, of two dotless names of which the first is an enabled
connector's, is answered after all of the schema's children have been given compound names, or none.
If one of them is of a foreign type the first such one is told of, and there are no new compound
nodes. If there is an answer and the schema is there, no child is of a foreign type, and the
compound name of every child is at the root. -/
theorem Tree.Reached.flattens {state after : LookupState} (reached : state.tree.Reached)
    (context : LookupContext) {outer inner : String} (ho : Undotted outer) (hi : Undotted inner)
    (lo : Text.lower outer = outer) (li : Text.lower inner = inner)
    (plain : context.aliases.namespaceAlias context.settings.user
      (Tree.compoundName outer inner) = none)
    (free : state.tree.child? Tree.root (Tree.compoundName outer inner) = none)
    (unserved : state.registry.enabled? (Tree.compoundName outer inner) = none)
    {connector : Connector} (serves : state.registry.enabled? outer = some connector)
    {caseSensitive : Bool} {answer : Except LookupError (Option NodeId)}
    (asked : state.findChild context (Tree.compoundName outer inner) caseSensitive =
      ⟨answer, after⟩) :
    (∀ schema typeName path, answer = .error (.unexpectedSchema schema typeName path) →
      ∃ parent first, after.tree.child? Tree.root outer = some parent ∧
        after.tree.FirstForeign parent first typeName ∧
        schema = Tree.compoundName outer first ∧ path = outer ∧
        ∀ id target, after.tree.kindOf? id = some (.compound target) ↔
          state.tree.kindOf? id = some (.compound target)) ∧
    ∀ id?, answer = .ok id? →
      id? = after.tree.child? Tree.root (Tree.compoundName outer inner) ∧
      ∀ parent, after.tree.child? Tree.root outer = some parent →
        after.tree.Flattened outer parent ∧
        ∀ child, after.tree.child? parent inner = some child → ∃ id, id? = some id := by
  have sound : (state.note (.resolving (Tree.compoundName outer inner) caseSensitive)).tree.Sound :=
    reached.sound
  have ending := LookupState.findSchema_flattenEnd context ho hi lo li sound free unserved serves
  rw [LookupState.findChild_of_no_alias caseSensitive plain] at asked
  simp only [asked] at ending
  constructor
  · rintro schema typeName path rfl
    cases ending with
    | refused found blamed same => exact ⟨_, _, found, blamed, rfl, rfl, same⟩
  · rintro id? rfl
    cases ending with
    | missing gone =>
      refine ⟨rfl, fun parent found => ?_⟩
      cases gone.symm.trans found
    | complete found flattened =>
      refine ⟨rfl, fun parent hparent => ?_⟩
      cases Option.some.inj (found.symm.trans hparent)
      refine ⟨flattened, fun child hchild => ?_⟩
      obtain ⟨_, id, hid⟩ := flattened _ (Tree.mem_children_of_child? hchild)
      rw [li] at hid
      exact ⟨id, hid⟩

/-- A connector whose schema has two children of foreign types behind one that is none. -/
def mixedConnector : Connector :=
  .scripted 0 "Mix" [⟨[⟨["mix", "a"], none, []⟩, ⟨["mix", "z"], some "FAR", []⟩,
    ⟨["mix", "M"], some "NEAR", []⟩], none⟩]

/-- A connector that gives one of its schemas a name with a dot at the root. -/
def dottedConnector : Connector :=
  .scripted 1 "dfs" [⟨[⟨["dfs", "tmp"], none, []⟩, ⟨["dfs.tmp"], none, []⟩,
    ⟨["dfs", "x"], none, []⟩], none⟩]

def mixedState : LookupState :=
  ((Catalog.empty .immediate).run
    [.register mixedConnector true, .register dottedConnector true]).state ⟨.bare, .immediate⟩

/-- Of the first connector's schemas the second one is told of, and nothing is made of the other
ones. The second connector's schemas have compound names, also the one whose name was taken. -/
theorem mixedState_flattens :
    (∃ parent, (mixedState.findChild troubledContext (Tree.compoundName "mix" "a")
        false).after.tree.FirstForeign parent "m" "NEAR") ∧
    ∃ parent, (mixedState.findChild troubledContext (Tree.compoundName "dfs" "tmp")
        false).after.tree.child? Tree.root "dfs" = some parent ∧
      (mixedState.findChild troubledContext (Tree.compoundName "dfs" "tmp")
        false).after.tree.Flattened "dfs" parent := by
  have reached : mixedState.tree.Reached := .bare
  have refused : (mixedState.findChild troubledContext (Tree.compoundName "mix" "a") false).answer =
      .error (.unexpectedSchema "mix.m" "NEAR" "mix") := by decide +kernel
  have answered : (mixedState.findChild troubledContext (Tree.compoundName "dfs" "tmp")
      false).answer = .ok (some 4) := by decide +kernel
  have found : (mixedState.findChild troubledContext (Tree.compoundName "dfs" "tmp")
      false).after.tree.child? Tree.root "dfs" = some 1 := by decide +kernel
  have freeMix : mixedState.tree.child? Tree.root (Tree.compoundName "mix" "a") = none := by
    decide +kernel
  have freeDfs : mixedState.tree.child? Tree.root (Tree.compoundName "dfs" "tmp") = none := by
    decide +kernel
  have mix : Undotted "mix" ∧ Undotted "a" := by decide
  have dfs : Undotted "dfs" ∧ Undotted "tmp" := by decide
  obtain ⟨parent, first, _, blamed, hschema, _⟩ :=
    (reached.flattens troubledContext mix.1 mix.2 (by decide +kernel) (by decide +kernel) rfl
      freeMix rfl rfl rfl).1 _ _ _ refused
  obtain ⟨_, there⟩ := (reached.flattens troubledContext dfs.1 dfs.2 (by decide +kernel)
    (by decide +kernel) rfl freeDfs rfl rfl rfl).2 _ answered
  obtain ⟨_, rfl⟩ := Tree.compoundName_inj mix.1 mix.1
    (hschema.symm.trans (show "mix.m" = Tree.compoundName "mix" "m" by decide))
  exact ⟨⟨parent, blamed⟩, 1, found, (there 1 found).1⟩

end FederatedCatalog
