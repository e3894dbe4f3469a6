import FederatedCatalog.Proofs.SteadyLoad
import FederatedCatalog.Proofs.Stability

namespace FederatedCatalog

namespace Tree

/-- A child of the root has a child of a foreign type. -/
def HasForeignChild (tree : Tree) (outer : String) : Prop :=
  ∃ parent name child node typeName, tree.child? root outer = some parent ∧
    tree.child? parent name = some child ∧ tree.node? child = some node ∧
    node.kind = .foreign typeName

variable {tree : Tree}

theorem Sound.hasForeignChild_iff (sound : tree.Sound) {outer : String} {parent : NodeId}
    (hparent : tree.locate? [outer] = some parent) (dotless : Undotted outer)
    (lowered : Text.lower outer = outer) :
    tree.HasForeignChild outer ↔ tree.uncompoundable? parent ≠ none := by
  have hchild : tree.child? root outer = some parent := by
    rw [child?_root sound, lowered]
    exact hparent
  have hlt := (sound.locate?_eq_some_iff.mp hparent).1
  have hpath : ∀ name, tree.child? parent name = tree.locate? [outer, Text.lower name] := by
    intro name
    rw [sound.child?_eq_locate? hlt, sound.follow_of_undotted hparent dotless,
      (sound.locate?_eq_some_iff.mp hparent).2]
    rfl
  rw [Ne, sound.uncompoundable?_none hparent dotless]
  constructor
  · rintro ⟨found, name, child, node, typeName, hfound, hname, hnode, hkind⟩ hall
    cases Option.some.inj (hchild.symm.trans hfound)
    have hlocate := (hpath name).symm.trans hname
    have := hall (content_kind_of_locate? hlocate hnode)
    rw [hkind] at this
    cases this
  · intro hall
    apply Classical.byContradiction
    intro hnone
    apply hall
    intro other kind hkind
    obtain ⟨id, node, hid, hnode, rfl⟩ := content_kind_eq_some.mp hkind
    have hlower := sound.map_lower_of_locate? hid
    simp only [List.map_cons, List.map_nil, List.cons.injEq, and_true] at hlower
    cases hk : node.kind with
    | schema connector => rfl
    | compound target => rfl
    | root =>
      have hroot := sound.rootOnly hnode hk
      rw [hroot, sound.locate?_eq_some_iff, sound.lineage_root] at hid
      cases hid.2
    | «foreign» typeName =>
      refine absurd ⟨parent, other, id, node, typeName, hchild, ?_, hnode, hk⟩ hnone
      rw [hpath, hlower.2]
      exact hid

theorem Tidy.walk_compound (tidy : tree.Tidy) (sound : tree.Sound) {outer inner : String}
    {id : NodeId} (dotless : Undotted outer)
    (h : tree.locate? [compoundName outer inner] = some id) : ∃ target,
      tree.locate? [outer, inner] = some target ∧ tree.follow id = target ∧
      ∀ name rest, tree.walk? id (name :: rest) =
        tree.locate? ([outer, inner] ++ (name :: rest).map Text.lower) := by
  obtain ⟨node, hnode⟩ := sound.locate?_node h
  have hkind := content_kind_of_locate? h hnode
  obtain ⟨target, hcompound⟩ := tidy.dotted hkind (not_undotted_compoundName outer inner)
  rw [hcompound] at hkind
  have htarget := sound.compound_target dotless hkind
  have hfollow := sound.follow_of_compound hnode hcompound
  have hlt := (sound.locate?_eq_some_iff.mp h).1
  have hne := sound.ne_root_of_locate? h (by simp)
  refine ⟨target, htarget, hfollow, ?_⟩
  intro name rest
  rw [sound.walk?_eq_locate? hlt hne (List.cons_ne_nil name rest), hfollow,
    (sound.locate?_eq_some_iff.mp htarget).2]

end Tree

namespace LookupState

variable {state : LookupState} {context : LookupContext} {connector : Connector}

theorem findPath_parts (steady : connector.Steady) (sound : state.tree.Sound)
    {outer : String} (lowered : Text.lower outer = outer)
    (serves : state.registry.enabled? outer = some connector)
    (houter : outer = Text.lower connector.name) (dotless : Undotted outer)
    (plain : context.aliases.namespaceAlias context.settings.user outer = none)
    (inner : String) (rest : List String) (caseSensitive : Bool) :
    (state.findPath context ⟨outer, inner :: rest⟩ caseSensitive).answer =
      .ok ((state.loaded context outer connector).locate?
        (outer :: (inner :: rest).map Text.lower)) ∧
    (state.findPath context ⟨outer, inner :: rest⟩ caseSensitive).after.tree =
      state.loaded context outer connector := by
  have soundNoted : (state.note (.resolving outer caseSensitive)).tree.Sound := sound
  have servesNoted : (state.note (.resolving outer caseSensitive)).registry.enabled?
      (Text.lower outer) = some connector := by
    rw [lowered]
    exact serves
  obtain ⟨parent, hanswer, _, htree, hparent⟩ :=
    findSchema_served context steady soundNoted servesNoted (lowered.trans houter)
  have hloaded : (state.note (.resolving outer caseSensitive)).loaded context (Text.lower outer)
      connector = state.loaded context outer connector := by
    rw [lowered]
    rfl
  rw [hloaded] at htree hparent
  rw [lowered] at hparent
  have sound' := sound.of_grown (loaded_grown context steady sound outer)
  obtain ⟨hlt, hlineage⟩ := sound'.locate?_eq_some_iff.mp hparent
  have hne := sound'.ne_root_of_locate? hparent (List.cons_ne_nil outer [])
  rw [findPath_of_no_alias sound (inner :: rest) caseSensitive plain]
  simp only [LookupRun.read, hanswer, htree, Except.map, Option.bind_some]
  rw [sound'.walk?_eq_locate? hlt hne (List.cons_ne_nil inner rest),
    sound'.follow_of_undotted hparent dotless, hlineage]
  exact ⟨rfl, trivial⟩

end LookupState

/-- Neither lookup finds a node, or both do, and at both nodes lookups look into the same node. -/
def LookupRun.Meets (first second : LookupRun (Option NodeId)) : Prop :=
  first.answer = .ok none ∧ second.answer = .ok none ∨
  ∃ id id', first.answer = .ok (some id) ∧ second.answer = .ok (some id') ∧
    first.after.tree.follow id = second.after.tree.follow id'

namespace Tree

theorem Tidy.walks_meet {before after : Tree} (tidy : after.Tidy) (sound : before.Sound)
    (sound' : after.Sound) (keeps : before.Keeps after) {outer inner : String} {id : NodeId}
    (dotless : Undotted outer)
    (below : ∀ rest,
      after.locate? (outer :: inner :: rest) = before.locate? (outer :: inner :: rest))
    (h : after.locate? [compoundName outer inner] = some id) (names : List String) :
    after.walk? id names = none ∧ before.locate? (outer :: inner :: names.map Text.lower) = none ∨
    ∃ found found', after.walk? id names = some found ∧
      before.locate? (outer :: inner :: names.map Text.lower) = some found' ∧
      after.follow found = before.follow found' := by
  obtain ⟨target, htarget, hfollow, hwalk⟩ := tidy.walk_compound sound' dotless h
  cases names with
  | nil =>
    have htarget' : before.locate? [outer, inner] = some target := (below []).symm.trans htarget
    refine Or.inr ⟨id, target, rfl, htarget', ?_⟩
    rw [hfollow]
    exact (sound.follow_of_locate? htarget' (ne_compoundName_of_below outer inner [])).symm
  | cons name rest =>
    have heq : after.walk? id (name :: rest) =
        before.locate? (outer :: inner :: (name :: rest).map Text.lower) :=
      (hwalk name rest).trans (below ((name :: rest).map Text.lower))
    rw [heq]
    cases hfound : before.locate? (outer :: inner :: (name :: rest).map Text.lower) with
    | none => exact Or.inl ⟨rfl, rfl⟩
    | some found =>
      refine Or.inr ⟨found, found, rfl, rfl, ?_⟩
      exact keeps.follow sound sound' (sound.locate?_eq_some_iff.mp hfound).1

end Tree

namespace LookupState

variable {state : LookupState} {context : LookupContext} {connector : Connector}

theorem CompoundEnd.path {tree : Tree} {outer inner : String}
    {run other : LookupRun (Option NodeId)} (ending : CompoundEnd tree outer inner run)
    (sound : tree.Sound) (tidy : run.after.tree.Tidy) (ho : Undotted outer)
    (lo : Text.lower outer = outer) (rest : List String)
    (parts : other.answer = .ok (tree.locate? (outer :: inner :: rest.map Text.lower)))
    (partsTree : other.after.tree = tree) :
    (tree.HasForeignChild outer → ∃ schema typeName owner,
      (run.read fun id? after => id?.bind fun id => after.walk? id rest).answer =
        .error (.unexpectedSchema schema typeName owner)) ∧
    (¬tree.HasForeignChild outer →
      (run.read fun id? after => id?.bind fun id => after.walk? id rest).Meets other) := by
  cases ending with
  | @refused parent entry hparent hentry answer =>
    rw [sound.hasForeignChild_iff hparent ho lo]
    refine ⟨fun _ => ⟨Tree.compoundName outer entry.1, entry.2.typeName, ".".intercalate [outer],
      ?_⟩, ?_⟩
    · simp only [LookupRun.read, answer, Except.map]
    · intro hneg
      exact absurd (by rw [hentry]; exact Option.some_ne_none entry) hneg
  | absent hparent hnone hinner answer =>
    rw [sound.hasForeignChild_iff hparent ho lo]
    refine ⟨fun hforeign => absurd hnone hforeign, fun _ => Or.inl ⟨?_, ?_⟩⟩
    · simp only [LookupRun.read, answer, Except.map, Option.bind_none]
    · have hbelow : tree.locate? ([outer, inner] ++ rest.map Text.lower) = none := by
        rw [Tree.locate?_append, hinner]
        rfl
      exact parts.trans (congrArg Except.ok hbelow)
  | found hparent hnone hinner answer located same =>
    rw [sound.hasForeignChild_iff hparent ho lo]
    refine ⟨fun hforeign => absurd hnone hforeign, fun _ => ?_⟩
    have sound' := sound.of_grown same.grown
    have below : ∀ tail, run.after.tree.locate? (outer :: inner :: tail) =
        tree.locate? (outer :: inner :: tail) :=
      fun tail => same.grown.keeps.locate?_eq sound sound' (same.kind _ (by simp))
    rcases tidy.walks_meet sound sound' same.grown.keeps ho below located rest with
      ⟨hwalk, hlocate⟩ | ⟨found, found', hwalk, hlocate, hfollow⟩
    · refine Or.inl ⟨?_, parts.trans (congrArg Except.ok hlocate)⟩
      simp only [LookupRun.read, answer, Except.map, Option.bind_some, hwalk]
    · refine Or.inr ⟨found, found', ?_, parts.trans (congrArg Except.ok hlocate), ?_⟩
      · simp only [LookupRun.read, answer, Except.map, Option.bind_some, hwalk]
      · rw [partsTree]
        exact hfollow

theorem findPath_compound (steady : state.registry.Holds Connector.Steady)
    (sound : state.tree.Sound) (tidy : state.tree.Tidy) {outer inner : String} (ho : Undotted outer)
    (hi : Undotted inner) (lo : Text.lower outer = outer) (li : Text.lower inner = inner)
    (serves : state.registry.enabled? outer = some connector)
    (plain : context.aliases.namespaceAlias context.settings.user outer = none)
    (plain' : context.aliases.namespaceAlias context.settings.user
      (Tree.compoundName outer inner) = none) (rest : List String) (caseSensitive : Bool) :
    ((state.loaded context outer connector).HasForeignChild outer →
      ∃ schema typeName owner, (state.findPath context ⟨Tree.compoundName outer inner, rest⟩
        caseSensitive).answer = .error (.unexpectedSchema schema typeName owner)) ∧
    (¬(state.loaded context outer connector).HasForeignChild outer →
      (state.findPath context ⟨Tree.compoundName outer inner, rest⟩ caseSensitive).Meets
        (state.findPath context ⟨outer, inner :: rest⟩ caseSensitive)) := by
  obtain ⟨houter, hsteady⟩ := steady.enabled? serves
  rw [lo] at houter
  obtain ⟨hparts, hpartsTree⟩ :=
    findPath_parts hsteady sound lo serves houter ho plain inner rest caseSensitive
  rw [List.map_cons, li] at hparts
  have soundLoaded := sound.of_grown (loaded_grown context hsteady sound outer)
  have soundNoted : (state.note (.resolving (Tree.compoundName outer inner)
    caseSensitive)).tree.Sound := sound
  have tidyNoted : (state.note (.resolving (Tree.compoundName outer inner)
    caseSensitive)).tree.Tidy := tidy
  have steadyNoted : (state.note (.resolving (Tree.compoundName outer inner)
    caseSensitive)).registry.Holds Connector.Steady := steady
  have ending : CompoundEnd (state.loaded context outer connector) outer inner
      ((state.note (.resolving (Tree.compoundName outer inner) caseSensitive)).findSchema context
        (Tree.compoundName outer inner)) :=
    findSchema_compoundEnd soundNoted tidyNoted (Tree.lower_compoundName lo li) ho steadyNoted
      serves context hi
  have tidyAfter := (findSchema_course _ context (Tree.compoundName outer inner)).steps.tidy
    soundNoted steadyNoted tidyNoted
  rw [findPath_of_no_alias sound rest caseSensitive plain']
  exact ending.path soundLoaded tidyAfter ho lo rest hparts hpartsTree

end LookupState

namespace Catalog

def findPath (catalog : Catalog) (session : Session) (path : Path) (caseSensitive : Bool) :
    LookupRun (Option NodeId) :=
  (catalog.state session).findPath (catalog.context session) path caseSensitive

theorem brings_steady {operations : List Operation}
    (unfailing : ∀ operation ∈ operations, operation.Brings Connector.Unfailing) :
    ∀ operation ∈ operations, operation.Brings Connector.Steady :=
  fun operation hm => (unfailing operation hm).mono fun _ => Connector.Unfailing.steady

/-- In every session that connectors which never fail have filled, a path that begins with the
compound name of two names either ends with an error, because the first name's schema has a child of
a foreign type, or leads where the path leads that has the two names in its place. -/
theorem compoundName_agrees_with_path {start : Catalog} (empty : start.registry = .empty)
    (fresh : start.sessions = #[]) {operations : List Operation}
    (unfailing : ∀ operation ∈ operations, operation.Brings Connector.Unfailing) {number : Nat}
    {session : Session} (opened : (start.run operations).sessions[number]? = some session)
    {outer inner : String} (ho : Undotted outer) (hi : Undotted inner)
    (lo : Text.lower outer = outer) (li : Text.lower inner = inner) {connector : Connector}
    (serves : (start.run operations).registry.enabled? outer = some connector)
    (plain : (start.run operations).aliasTarget? session outer = none)
    (plain' : (start.run operations).aliasTarget? session (Tree.compoundName outer inner) = none)
    (rest : List String) (caseSensitive : Bool) :
    (((start.run operations).findPath session ⟨outer, inner :: rest⟩
        caseSensitive).after.tree.HasForeignChild outer →
      ∃ schema typeName owner, ((start.run operations).findPath session
        ⟨Tree.compoundName outer inner, rest⟩ caseSensitive).answer =
          .error (.unexpectedSchema schema typeName owner)) ∧
    (¬((start.run operations).findPath session ⟨outer, inner :: rest⟩
        caseSensitive).after.tree.HasForeignChild outer →
      ((start.run operations).findPath session ⟨Tree.compoundName outer inner, rest⟩
        caseSensitive).Meets
          ((start.run operations).findPath session ⟨outer, inner :: rest⟩ caseSensitive)) := by
  obtain ⟨holds, sessions⟩ := run_tidy empty fresh (brings_steady unfailing)
  obtain ⟨sound, tidy⟩ := sessions opened
  obtain ⟨hname, steady⟩ := holds.enabled? serves
  have houter : outer = Text.lower connector.name := lo.symm.trans hname
  have soundState : ((start.run operations).state session).tree.Sound := sound
  have tidyState : ((start.run operations).state session).tree.Tidy := tidy
  have holdsState : ((start.run operations).state session).registry.Holds Connector.Steady := holds
  have hpartsTree : ((start.run operations).findPath session ⟨outer, inner :: rest⟩
      caseSensitive).after.tree = ((start.run operations).state session).loaded
        ((start.run operations).context session) outer connector :=
    (LookupState.findPath_parts steady soundState lo serves houter ho plain inner rest
      caseSensitive).2
  rw [hpartsTree]
  exact LookupState.findPath_compound holdsState soundState tidyState ho hi lo li serves plain
    plain' rest caseSensitive

theorem unfailing_filesAndSession :
    ∀ operation ∈ filesAndSession, operation.Brings Connector.Unfailing := by
  intro operation hm
  rcases List.mem_cons.mp hm with rfl | hm
  · exact ⟨_, _, _, _, by decide, rfl⟩
  · obtain rfl := List.mem_singleton.mp hm
    trivial

/-- A session that has loaded nothing finds the compound node under one name, the schema that it
stands for along the other, and looks into the schema from both. -/
theorem dfs_tmp_agrees :
    let catalog := (Catalog.empty .immediate).run filesAndSession
    let compound := catalog.findPath ⟨.bare, .immediate⟩ ⟨Tree.compoundName "dfs" "tmp", []⟩ false
    let parts := catalog.findPath ⟨.bare, .immediate⟩ ⟨"dfs", ["tmp"]⟩ false
    compound.Meets parts ∧
      compound.answer = .ok (some 3) ∧ compound.after.tree.follow 3 = 2 ∧
      parts.answer = .ok (some 2) ∧ parts.after.tree.follow 2 = 2 ∧
      (parts.after.tree.node? 2).map Node.kind = some (.schema "dfs") := by
  intro catalog compound parts
  have opened : catalog.sessions[0]? = some ⟨.bare, .immediate⟩ := rfl
  have ho : Undotted "dfs" := by decide
  have hi : Undotted "tmp" := by decide
  have meets : compound.Meets parts := by
    apply (compoundName_agrees_with_path rfl rfl unfailing_filesAndSession opened ho hi rfl rfl rfl
      rfl rfl [] false).2
    rintro ⟨_, _, child, node, typeName, _, _, hnode, hkind⟩
    have known : ∀ node ∈ parts.after.tree.nodes,
        node.kind = .root ∨ node.kind = .schema "dfs" := by decide +kernel
    rcases known node (Array.mem_of_getElem? hnode) with h | h
    · rw [hkind] at h
      cases h
    · rw [hkind] at h
      cases h
  exact ⟨meets, by decide +kernel⟩

end Catalog

end FederatedCatalog
