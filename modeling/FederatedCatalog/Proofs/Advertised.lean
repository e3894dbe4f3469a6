import FederatedCatalog.Proofs.OwnSchema
import FederatedCatalog.Proofs.Stability

namespace FederatedCatalog

namespace Tree

/-- Every child of the root is the schema of the connector of that name, or a compound node. -/
def RootsOwned (tree : Tree) : Prop :=
  ∀ ⦃key : String⦄ ⦃kind : NodeKind⦄, tree.content.kind [key] = some kind →
    (∃ owner, kind = .schema owner ∧ Text.lower owner = key) ∨ ∃ target, kind = .compound target

/-- Whether the root has a compound node of that name. -/
def HasCompound (tree : Tree) (name : String) : Prop :=
  ∃ id node target, tree.child? root name = some id ∧ tree.node? id = some node ∧
    node.kind = .compound target

theorem rootsOwned_bare : RootsOwned bare := by
  intro key kind h
  rw [content_bare] at h
  simp [Content.ofLists] at h

variable {tree : Tree} {name : String}

theorem Sound.not_undotted_of_hasCompound (sound : tree.Sound) (h : tree.HasCompound name) :
    ¬Undotted name := by
  obtain ⟨id, node, target, hid, hnode, hkind⟩ := h
  rw [child?_root sound] at hid
  have hcompound := content_kind_of_locate? hid hnode
  rw [hkind] at hcompound
  obtain ⟨outer, inner, _, hpath, _⟩ := sound.compound_path hcompound
  rw [← undotted_lower, (List.singleton_inj.mp hpath)]
  exact not_undotted_compoundName outer inner

theorem RootsOwned.owner (owned : tree.RootsOwned) (sound : tree.Sound) {id : NodeId}
    (hid : tree.child? root name = some id) (h : ¬tree.HasCompound name) : ∃ node owner,
      tree.node? id = some node ∧ node.kind = .schema owner ∧
      Text.lower owner = Text.lower name := by
  have hlocate := hid
  rw [child?_root sound] at hlocate
  obtain ⟨node, hnode⟩ := sound.locate?_node hlocate
  rcases owned (content_kind_of_locate? hlocate hnode) with ⟨owner, hkind, hname⟩ | ⟨target, hkind⟩
  · exact ⟨node, owner, hnode, hkind, hname⟩
  · exact absurd ⟨id, node, target, hid, hnode, hkind⟩ h

end Tree

namespace LookupState

variable {state after : LookupState} {context : LookupContext} {connector : Connector}

theorem Step.kind_at_root (step : Step context state after) (sound : state.tree.Sound)
    (selfNamed : state.registry.Holds Connector.SelfNamed) {key : String} {kind : NodeKind}
    (h : after.tree.content.kind [key] = some kind) :
    state.tree.content.kind [key] = some kind ∨
      (∃ connector, state.registry.enabled? key = some connector ∧
        Text.lower connector.name = key ∧ kind = .schema connector.name) ∨
      ∃ target, kind = .compound target := by
  cases step with
  | quiet quiet =>
    cases quiet with
    | note notice => exact Or.inl h
    | flatten dotless lowered found compoundable =>
      rw [Tree.child?_root sound, lowered] at found
      exact (Tree.addCompounds_kind_cases sound found dotless compoundable h).imp_right Or.inr
  | register schema lowered free serves =>
    rename_i name connector
    obtain ⟨named, own⟩ := selfNamed.enabled? serves
    obtain ⟨last, _, _, _, ⟨succeeded, _, _, htree⟩ | ⟨_, _, htree⟩⟩ :=
      state.register_cases context schema connector
    · have gains := Tree.register_gains sound connector.name (connector.attempt last).additions
      rw [htree, gains.content] at h
      rcases Option.or_eq_some_iff.mp h with h | ⟨_, h⟩
      · exact Or.inl h
      · obtain ⟨rfl, rfl⟩ := (own last succeeded).added_at_root h
        rw [lowered] at named
        exact Or.inr (Or.inl ⟨connector, named ▸ serves, rfl, rfl⟩)
    · rw [htree] at h
      exact Or.inl h

theorem Step.rootsOwned (step : Step context state after) (sound : state.tree.Sound)
    (selfNamed : state.registry.Holds Connector.SelfNamed) (owned : state.tree.RootsOwned) :
    after.tree.RootsOwned := by
  intro key kind h
  rcases step.kind_at_root sound selfNamed h with h | ⟨connector, _, named, rfl⟩ | compound
  · exact owned h
  · exact Or.inl ⟨connector.name, rfl, named⟩
  · exact Or.inr compound

theorem findSchema_served_free (sound : state.tree.Sound)
    (selfNamed : state.registry.Holds Connector.SelfNamed) {name : String}
    (serves : state.registry.enabled? name = some connector)
    (free : state.tree.child? Tree.root name = none) :
    (∃ failure, (state.findSchema context name).answer = .error (.load failure)) ∨
    ∃ id node owner, (state.findSchema context name).answer = .ok (some id) ∧
      (state.findSchema context name).after.tree.node? id = some node ∧
      node.kind = .schema owner ∧ Text.lower owner = Text.lower name := by
  obtain ⟨named, own⟩ := selfNamed.enabled? serves
  rw [findSchema_registers serves free]
  obtain ⟨last, _, _, _, ⟨succeeded, hanswer, _, htree⟩ | ⟨_, ⟨failure, hanswer⟩, _⟩⟩ :=
    state.register_cases context (Text.lower name) connector
  · right
    have gains := Tree.register_gains sound connector.name (connector.attempt last).additions
    rw [← htree] at gains
    have sound' := sound.of_grown gains.grown
    obtain ⟨id, hid⟩ := (own last succeeded).locate?_name sound gains
    obtain ⟨node, hnode⟩ := sound'.locate?_node hid
    have hkind := Tree.content_kind_of_locate? hid hnode
    rw [gains.content] at hkind
    rw [Tree.child?_root sound, named, ← sound.content_kind_eq_none] at free
    rcases Option.or_eq_some_iff.mp hkind with hkind | ⟨_, hkind⟩
    · rw [free] at hkind
      cases hkind
    · obtain ⟨_, hkind⟩ := (own last succeeded).added_at_root hkind
      refine ⟨id, node, connector.name, ?_, hnode, hkind, named.symm⟩
      rw [← named] at hid
      simp only [LookupRun.read, hanswer, Except.map]
      rw [Tree.child?_root sound', Text.lower_lower, hid]
  · left
    refine ⟨failure, ?_⟩
    simp only [LookupRun.read, hanswer, Except.map]

theorem findSchema_served_owned (context : LookupContext) (sound : state.tree.Sound)
    (owned : state.tree.RootsOwned) (selfNamed : state.registry.Holds Connector.SelfNamed)
    {name : String} (serves : state.registry.enabled? name = some connector) :
    (¬state.tree.HasCompound name →
      (∃ failure, (state.findSchema context name).answer = .error (.load failure)) ∨
      ∃ id node owner, (state.findSchema context name).answer = .ok (some id) ∧
        (state.findSchema context name).after.tree.node? id = some node ∧
        node.kind = .schema owner ∧ Text.lower owner = Text.lower name) ∧
    (state.tree.HasCompound name → ∃ id, state.tree.child? Tree.root name = some id ∧
      (state.findSchema context name).answer = .ok (some id)) := by
  constructor
  · intro single
    cases cached : state.tree.child? Tree.root name with
    | none => exact findSchema_served_free sound selfNamed serves cached
    | some id =>
      obtain ⟨node, owner, hnode, hkind, howner⟩ := owned.owner sound cached single
      rw [findSchema_cached cached]
      exact Or.inr ⟨id, node, owner, rfl, hnode, hkind, howner⟩
  · rintro ⟨id, _, _, cached, _⟩
    refine ⟨id, cached, ?_⟩
    rw [findSchema_cached cached]

end LookupState

namespace Catalog

def findChild (catalog : Catalog) (session : Session) (name : String) (caseSensitive : Bool) :
    LookupRun (Option NodeId) :=
  (catalog.state session).findChild (catalog.context session) name caseSensitive

/-- A name that a catalog advertises, and that is no alias, leads a session to the schema of the
connector of that name, unless the connector can not be registered. Only if the session has made a
compound node of that name before, it leads there. -/
theorem advertised_resolves {start : Catalog} (empty : start.registry = .empty)
    (fresh : start.sessions = #[]) {operations : List Operation}
    (described : ∀ operation ∈ operations, operation.Brings Connector.Described) {number : Nat}
    {session : Session} (opened : (start.run operations).sessions[number]? = some session)
    {name : String} (advertised : name ∈ (start.run operations).registry.enabledNames)
    (plain : (start.run operations).aliasTarget? session name = none) (caseSensitive : Bool) :
    (¬session.tree.HasCompound name →
      (∃ failure, ((start.run operations).findChild session name caseSensitive).answer =
        .error (.load failure)) ∨
      ∃ id node owner, ((start.run operations).findChild session name caseSensitive).answer =
          .ok (some id) ∧
        ((start.run operations).findChild session name caseSensitive).after.tree.node? id =
          some node ∧ node.kind = .schema owner ∧ Text.lower owner = name) ∧
    (session.tree.HasCompound name → ¬Undotted name ∧
      ∃ id, session.tree.child? Tree.root name = some id ∧
        ((start.run operations).findChild session name caseSensitive).answer = .ok (some id)) := by
  have selfNamed : ∀ operation ∈ operations, operation.Brings Connector.SelfNamed :=
    fun operation hm => (described operation hm).mono fun _ => Connector.Described.selfNamed
  obtain ⟨holds, sessions⟩ := run_holds empty fresh Tree.rootsOwned_bare
    (fun _ _ _ step sound holds owned => step.rootsOwned sound holds owned) selfNamed
  obtain ⟨sound, owned⟩ := sessions opened
  have sorted : (start.run operations).registry.entries.Sorted :=
    run_registry Registry.lasting_sorted (empty ▸ List.Pairwise.nil) (sessions_of_fresh fresh _)
      selfNamed
  obtain ⟨lowered, connector, serves⟩ := holds.enabled?_of_listed sorted advertised
  have soundNoted : (((start.run operations).state session).note
    (.resolving name caseSensitive)).tree.Sound := sound
  have looked : (start.run operations).findChild session name caseSensitive =
      (((start.run operations).state session).note (.resolving name caseSensitive)).findSchema
        ((start.run operations).context session) name :=
    LookupState.findChild_of_no_alias caseSensitive plain
  obtain ⟨schema, compound⟩ := LookupState.findSchema_served_owned
    ((start.run operations).context session) soundNoted owned holds serves
  rw [← looked, lowered] at schema
  rw [← looked] at compound
  exact ⟨schema, fun h => ⟨sound.not_undotted_of_hasCompound h, compound h⟩⟩

def dottedFiles : Operation :=
  .register (.described 1 "dfs.tmp" .empty 0 (.unreachable "dfs.tmp")) true

def dottedAndSession : List Operation :=
  [files, dottedFiles, .openSession none]

/-- A session that has loaded nothing comes to the schema of that connector. -/
theorem dfs_tmp_own : ∃ session,
    ((empty .immediate).run dottedAndSession).sessions[0]? = some session ∧
    ((∃ failure, (((empty .immediate).run dottedAndSession).findChild session "dfs.tmp"
        false).answer = .error (.load failure)) ∨
      ∃ id node owner, (((empty .immediate).run dottedAndSession).findChild session "dfs.tmp"
          false).answer = .ok (some id) ∧
        (((empty .immediate).run dottedAndSession).findChild session "dfs.tmp"
          false).after.tree.node? id = some node ∧
        node.kind = .schema owner ∧ Text.lower owner = "dfs.tmp") := by
  have described : ∀ operation ∈ dottedAndSession, operation.Brings Connector.Described := by
    intro operation hm
    simp only [dottedAndSession, List.mem_cons, List.not_mem_nil, or_false] at hm
    rcases hm with rfl | rfl | rfl
    · exact ⟨_, _, _, _, _, rfl⟩
    · exact ⟨_, _, _, _, _, rfl⟩
    · trivial
  have opened : ((empty .immediate).run dottedAndSession).sessions[0]? =
      some ⟨.bare, .immediate⟩ := rfl
  have advertised :
      "dfs.tmp" ∈ ((empty .immediate).run dottedAndSession).registry.enabledNames := by
    decide +kernel
  have single : ¬Tree.HasCompound .bare "dfs.tmp" := by
    rintro ⟨id, _, _, hid, _⟩
    have none : Tree.bare.child? Tree.root "dfs.tmp" = none := by decide +kernel
    rw [none] at hid
    cases hid
  exact ⟨_, opened,
    (advertised_resolves rfl rfl described opened advertised (by decide +kernel) false).1 single⟩

/-- After a lookup of a compound name the same name leads to a schema of the other connector. -/
theorem dfs_tmp_shadowed :
    let catalog := (empty .immediate).run (dottedAndSession ++ [.ask 0 (.child "dfs.other" false)])
    "dfs.tmp" ∈ catalog.registry.enabledNames ∧
      (catalog.sessions[0]?.map fun session => catalog.aliasTarget? session "dfs.tmp") =
        some none ∧
      (catalog.sessions[0]?.map fun session =>
        (catalog.findChild session "dfs.tmp" false).answer) = some (.ok (some 3)) ∧
      (catalog.sessions[0]?.map fun session =>
        ((catalog.findChild session "dfs.tmp" false).after.tree.node? 3).map Node.kind) =
        some (some (.compound 2)) ∧
      (catalog.sessions[0]?.map fun session =>
        ((catalog.findChild session "dfs.tmp" false).after.tree.node? 2).map Node.kind) =
        some (some (.schema "dfs")) := by
  decide +kernel

end Catalog

end FederatedCatalog
