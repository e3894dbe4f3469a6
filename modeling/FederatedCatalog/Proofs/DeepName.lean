import FederatedCatalog.Proofs.Advertised
import FederatedCatalog.Proofs.SteadyLoad

namespace FederatedCatalog

def Deep (name : String) : Prop :=
  2 ≤ name.toList.count '.'

instance (name : String) : Decidable (Deep name) :=
  inferInstanceAs (Decidable (2 ≤ name.toList.count '.'))

theorem deep_lower {name : String} : Deep (Text.lower name) ↔ Deep name := by
  rw [Deep, Text.count_dot_lower, Deep]

namespace Tree

theorem deep_compoundName {outer inner : String} (dotless : Undotted outer) :
    Deep (compoundName outer inner) ↔ ¬Undotted inner := by
  rw [Deep, toList_compoundName, List.count_append, List.count_cons_self,
    List.count_eq_zero.mpr dotless, Undotted, not_not, ← List.count_pos_iff]
  omega

/-- Every child of the root is the schema of a connector with a property, under the connector's
name, or a compound node. -/
def RootsFrom (tree : Tree) (P : Connector → Prop) : Prop :=
  ∀ ⦃key : String⦄ ⦃kind : NodeKind⦄, tree.content.kind [key] = some kind →
    (∃ connector, P connector ∧ Text.lower connector.name = key ∧
      kind = .schema connector.name) ∨ ∃ target, kind = .compound target

theorem rootsFrom_bare (P : Connector → Prop) : bare.RootsFrom P := by
  intro key kind h
  rw [content_bare] at h
  simp [Content.ofLists] at h

variable {tree : Tree} {P : Connector → Prop}

/-- What a child of the root with a deep name may be: the schema of a connector of that name, or a
compound node for a schema with a dot in its own name, directly below a connector's. -/
inductive DeepOrigin (tree : Tree) (P : Connector → Prop) (name : String) (node : Node) : Prop
  | schema {connector : Connector} (brought : P connector)
      (named : Text.lower connector.name = Text.lower name)
      (kind : node.kind = .schema connector.name)
  | compound {outer inner owner : String} {target : NodeId}
      (named : Text.lower name = compoundName outer inner) (dotless : Undotted outer)
      (dotted : ¬Undotted inner) (kind : node.kind = .compound target)
      (located : tree.locate? [outer, inner] = some target)
      (below : tree.content.kind [outer, inner] = some (.schema owner))

theorem RootsFrom.deep (roots : tree.RootsFrom P) (sound : tree.Sound) {name : String}
    (deep : Deep name) {id : NodeId} (there : tree.child? root name = some id) :
    ∃ node, tree.node? id = some node ∧ tree.DeepOrigin P name node := by
  rw [child?_root sound] at there
  obtain ⟨node, hnode⟩ := sound.locate?_node there
  have hkind := content_kind_of_locate? there hnode
  refine ⟨node, hnode, ?_⟩
  rcases roots hkind with ⟨connector, brought, named, hschema⟩ | ⟨target, hcompound⟩
  · exact .schema brought named hschema
  · rw [hcompound] at hkind
    obtain ⟨outer, inner, owner, hpath, dotless, located, below⟩ := sound.compound_path hkind
    have named := List.singleton_inj.mp hpath
    have dotted := deep_lower.mpr deep
    rw [named, deep_compoundName dotless] at dotted
    exact .compound named dotless dotted hcompound located below

end Tree

namespace LookupState

variable {state after : LookupState} {context : LookupContext}

theorem Step.rootsFrom {P : Connector → Prop} (step : Step context state after)
    (sound : state.tree.Sound)
    (holds : state.registry.Holds fun connector => connector.SelfNamed ∧ P connector)
    (roots : state.tree.RootsFrom P) : after.tree.RootsFrom P := by
  intro key kind h
  have selfNamed := holds.mono fun _ h => h.1
  rcases step.kind_at_root sound selfNamed h with h | ⟨connector, serves, named, rfl⟩ | compound
  · exact roots h
  · exact Or.inl ⟨connector, (holds.enabled? serves).2.2, named, rfl⟩
  · exact Or.inr compound

theorem findChild_deep (sound : state.tree.Sound) {name : String} (deep : Deep name)
    (unregistered : state.registry.find? name = none)
    (plain : context.aliases.namespaceAlias context.settings.user name = none)
    (caseSensitive : Bool) : ∃ notices, state.findChild context name caseSensitive =
      ⟨.ok (state.tree.child? Tree.root name), state.noted notices⟩ := by
  have resolving : state.findChild context name caseSensitive =
      (state.noted [.resolving name caseSensitive]).findSchema context name :=
    findChild_of_no_alias caseSensitive plain
  have soundNoted : (state.noted [.resolving name caseSensitive]).tree.Sound := sound
  rw [resolving]
  cases there : state.tree.child? Tree.root name with
  | some id =>
    have cached : (state.noted [.resolving name caseSensitive]).tree.child? Tree.root name =
        some id := there
    rw [findSchema_cached cached]
    exact ⟨[.resolving name caseSensitive, .cached (Text.lower name)], rfl⟩
  | none =>
    have free : (state.noted [.resolving name caseSensitive]).tree.locate? [Text.lower name] =
        none := (Tree.child?_root sound name).symm.trans there
    have unserved : (state.noted [.resolving name caseSensitive]).registry.enabled?
        (Text.lower name) = none := by
      rw [Registry.enabled?_lower, noted_registry, Registry.enabled?, unregistered]
    have parts : ∀ outer inner, Path.dotted (Text.lower name) = [outer, inner] →
        (state.noted [.resolving name caseSensitive]).registry.enabled? outer = none := by
      -- a name of two pieces has a single dot
      intro outer inner hdotted
      obtain ⟨named, ho, hi⟩ := Tree.eq_compoundName_of_dotted hdotted
      have dotted := deep_lower.mpr deep
      rw [named, Tree.deep_compoundName ho] at dotted
      exact absurd hi dotted
    rw [findSchema_unserved soundNoted free unserved parts]
    exact ⟨[.resolving name caseSensitive], rfl⟩

end LookupState

namespace Catalog

/-- Whether operations bring in a connector. -/
def BroughtIn (operations : List Operation) (connector : Connector) : Prop :=
  ∃ enabled, .register connector enabled ∈ operations

theorem run_rootsFrom {start : Catalog} (empty : start.registry = .empty)
    (fresh : start.sessions = #[]) {operations : List Operation}
    (selfNamed : ∀ operation ∈ operations, operation.Brings Connector.SelfNamed) :
    (start.run operations).Sessions fun tree => tree.RootsFrom (BroughtIn operations) := by
  have brings : ∀ operation ∈ operations, operation.Brings fun connector =>
      connector.SelfNamed ∧ BroughtIn operations connector := by
    intro operation hm
    apply (selfNamed operation hm).and
    cases operation with
    | register connector enabled => exact ⟨enabled, hm⟩
    | _ => trivial
  exact (run_holds empty fresh (Tree.rootsFrom_bare (BroughtIn operations))
    (fun _ _ _ step sound holds roots => step.rootsFrom sound holds roots) brings).2

/-- A name with two dots or more that is no alias, and that no registered connector bears, is not
found unless the session has it already. Nothing is called and nothing is made for it. What the
session has of that name is the schema of a connector that was brought in before, or a compound node
for a schema with a dot in its own name. -/
theorem deepName_cached {start : Catalog} (empty : start.registry = .empty)
    (fresh : start.sessions = #[]) {operations : List Operation}
    (described : ∀ operation ∈ operations, operation.Brings Connector.Described) {number : Nat}
    {session : Session} (opened : (start.run operations).sessions[number]? = some session)
    {name : String} (deep : Deep name)
    (unregistered : (start.run operations).registry.find? name = none)
    (plain : (start.run operations).aliasTarget? session name = none) (caseSensitive : Bool) :
    (∃ notices, (start.run operations).findChild session name caseSensitive =
      ⟨.ok (session.tree.child? Tree.root name),
        ((start.run operations).state session).noted notices⟩) ∧
    ∀ {id}, session.tree.child? Tree.root name = some id →
      ∃ node, session.tree.node? id = some node ∧
        session.tree.DeepOrigin (BroughtIn operations) name node := by
  have selfNamed : ∀ operation ∈ operations, operation.Brings Connector.SelfNamed :=
    fun operation hm => (described operation hm).mono fun _ => Connector.Described.selfNamed
  obtain ⟨sound, roots⟩ := run_rootsFrom empty fresh selfNamed opened
  have soundState : ((start.run operations).state session).tree.Sound := sound
  exact ⟨LookupState.findChild_deep soundState deep unregistered plain caseSensitive,
    fun there => roots.deep sound deep there⟩

def archive : Operation :=
  .register (.described 0 "dfs" ⟨[("tmp.old", .empty)], [], none⟩ 0 (.unreachable "dfs")) true

def region : Operation :=
  .register (.described 1 "eu.west.one" .empty 0 (.unreachable "eu.west.one")) true

/-- A session that has looked up a compound name of the files, and the other connector before that
was removed. -/
def archiveAndRegion : List Operation :=
  [archive, region, .openSession none, .ask 0 (.child "dfs.other" false),
    .ask 0 (.child "eu.west.one" false), .remove "eu.west.one"]

/-- It finds the schema with a dot in its name. -/
theorem tmp_old_cached : ∃ session,
    ((empty .immediate).run archiveAndRegion).sessions[0]? = some session ∧
    (∃ notices, ((empty .immediate).run archiveAndRegion).findChild session "dfs.tmp.old" false =
      ⟨.ok (some 3), (((empty .immediate).run archiveAndRegion).state session).noted notices⟩) ∧
    ∃ node, session.tree.node? 3 = some node ∧
      session.tree.DeepOrigin (BroughtIn archiveAndRegion) "dfs.tmp.old" node := by
  have described : ∀ operation ∈ archiveAndRegion, operation.Brings Connector.Described := by
    intro operation hm
    simp only [archiveAndRegion, List.mem_cons, List.not_mem_nil, or_false] at hm
    rcases hm with rfl | rfl | rfl | rfl | rfl | rfl
    · exact ⟨_, _, _, _, _, rfl⟩
    · exact ⟨_, _, _, _, _, rfl⟩
    all_goals trivial
  obtain ⟨session, opened⟩ :=
    Option.isSome_iff_exists.mp (show
      ((empty .immediate).run archiveAndRegion).sessions[0]?.isSome by decide +kernel)
  have unregistered : ((empty .immediate).run archiveAndRegion).registry.find? "dfs.tmp.old" =
      none := Option.isNone_iff_eq_none.mp (by decide +kernel)
  have seen : (((empty .immediate).run archiveAndRegion).sessions[0]?.map fun session =>
      (session.tree.child? Tree.root "dfs.tmp.old",
        ((empty .immediate).run archiveAndRegion).aliasTarget? session "dfs.tmp.old")) =
      some (some 3, none) := by decide +kernel
  rw [opened, Option.map_some, Option.some.injEq, Prod.mk.injEq] at seen
  obtain ⟨there, plain⟩ := seen
  have deep : Deep "dfs.tmp.old" := by decide
  obtain ⟨found, kinds⟩ :=
    deepName_cached rfl rfl described opened deep unregistered plain false
  rw [there] at found
  exact ⟨session, opened, found, kinds there⟩

/-- It finds the schema of the removed connector too. A session that has looked up nothing finds
neither. -/
theorem archive_region_found :
    let catalog := (empty .immediate).run archiveAndRegion
    ∀ found ∈ [("dfs.tmp.old", 3), ("eu.west.one", 4)], Deep found.1 ∧
      (catalog.registry.find? found.1).isNone ∧
      (catalog.sessions[0]?.map fun session => catalog.aliasTarget? session found.1) =
        some none ∧
      (catalog.sessions[0]?.map fun session =>
        (catalog.findChild session found.1 false).answer) = some (.ok (some found.2)) ∧
      (catalog.findChild ⟨.bare, .immediate⟩ found.1 false).answer = .ok none := by
  decide +kernel

end Catalog

end FederatedCatalog
