import FederatedCatalog.Proofs.CompoundPath

namespace FederatedCatalog

namespace LookupState

variable {state : LookupState} {context : LookupContext} {path : Path}

theorem findPath_cached (sound : state.tree.Sound) {id : NodeId} (caseSensitive : Bool)
    (plain : context.aliases.namespaceAlias context.settings.user path.first = none)
    (cached : state.tree.child? Tree.root path.first = some id) :
    state.findPath context path caseSensitive = ⟨.ok (state.tree.walk? id path.rest),
      state.noted [.resolving path.first caseSensitive, .cached (Text.lower path.first)]⟩ := by
  have noted : (state.note (.resolving path.first caseSensitive)).tree.child? Tree.root
      path.first = some id := cached
  have split := findPath_of_no_alias sound path.rest caseSensitive plain
  rw [findSchema_cached noted] at split
  exact split

/-- Below a connector's schema no compound name is made while the connector is disabled. -/
theorem findPath_withheld (undotted : state.registry.Holds fun connector => Undotted connector.name)
    (sound : state.tree.Sound) {outer inner : String} (dotless : Undotted outer)
    (disabled : state.registry.enabled? outer = none)
    (plain : context.aliases.namespaceAlias context.settings.user path.first = none)
    (named : Text.lower path.first = Tree.compoundName outer inner)
    (free : state.tree.child? Tree.root path.first = none) (caseSensitive : Bool) :
    (state.findPath context path caseSensitive).answer = .ok none := by
  have lowered : Text.lower (Tree.compoundName outer inner) = Tree.compoundName outer inner :=
    named ▸ Text.lower_lower path.first
  have unserved : state.registry.enabled? (Text.lower path.first) = none := by
    rw [named]
    exact undotted.enabled?_compoundName lowered
  have parts : ∀ outer' inner', Path.dotted (Text.lower path.first) = [outer', inner'] →
      state.registry.enabled? outer' = none := by
    intro outer' inner' hdotted
    obtain ⟨heq, dotless', _⟩ := Tree.eq_compoundName_of_dotted hdotted
    obtain ⟨rfl, _⟩ := Tree.compoundName_inj dotless dotless' (named.symm.trans heq)
    exact disabled
  rw [Tree.child?_root sound] at free
  have split := findPath_of_no_alias sound path.rest caseSensitive plain
  have soundNoted : (state.note (.resolving path.first caseSensitive)).tree.Sound := sound
  rw [findSchema_unserved soundNoted free unserved parts] at split
  exact congrArg LookupRun.answer split

end LookupState

namespace Catalog

/-- The catalog after a connector was disabled, if there is one of that name. -/
def disabled (catalog : Catalog) (name : String) : Catalog :=
  (catalog.perform (.setEnabled name false)).2.2

theorem disabled_eq (catalog : Catalog) (name : String) : catalog.disabled name =
    { catalog with registry := catalog.registry.disabledUnder none name } := by
  simp only [disabled, perform, Registry.disabledUnder, Registry.setEnabledUnder]
  cases catalog.registry.setEnabled name false <;> rfl

@[simp] theorem disabled_registry (catalog : Catalog) (name : String) :
    (catalog.disabled name).registry = catalog.registry.disabledUnder none name := by
  rw [disabled_eq]

@[simp] theorem disabled_context (catalog : Catalog) (name : String) (session : Session) :
    (catalog.disabled name).context session = catalog.context session := by
  rw [disabled_eq]
  rfl

/-- Disabling a connector whose schema a session has loaded hides nothing that the session finds
under a child of the root. What it would have found under a compound name that is no child of the
root yet, it does not find. -/
theorem found_after_disabling {start : Catalog} (empty : start.registry = .empty)
    (fresh : start.sessions = #[]) {operations : List Operation}
    (undotted : ∀ operation ∈ operations,
      operation.Brings fun connector => Undotted connector.name) {number : Nat}
    {session : Session} (opened : (start.run operations).sessions[number]? = some session)
    {key : String} (dotless : Undotted key) {schema : NodeId}
    (loaded : session.tree.child? Tree.root key = some schema) {path : Path}
    (named : Text.lower path.first = Text.lower key ∨
      ∃ inner, Text.lower path.first = Tree.compoundName (Text.lower key) inner)
    (plain : (start.run operations).aliasTarget? session path.first = none) {caseSensitive : Bool}
    {id : NodeId}
    (found : ((start.run operations).findPath session path caseSensitive).answer = .ok (some id)) :
    (session.tree.child? Tree.root path.first ≠ none →
      (((start.run operations).disabled key).findPath session path caseSensitive).answer =
          .ok (some id) ∧
        (((start.run operations).disabled key).findPath session path
            caseSensitive).after.tree.follow id =
          ((start.run operations).findPath session path caseSensitive).after.tree.follow id) ∧
    (session.tree.child? Tree.root path.first = none →
      Text.lower path.first ≠ Text.lower key ∧
        (((start.run operations).disabled key).findPath session path caseSensitive).answer =
          .ok none) := by
  obtain ⟨holds, sessions⟩ := run_brings empty fresh undotted
  have sound : session.tree.Sound := (sessions opened).1
  have soundBefore : ((start.run operations).state session).tree.Sound := sound
  have soundAfter : (((start.run operations).disabled key).state session).tree.Sound := sound
  rw [findPath, findPath, disabled_context]
  rw [findPath] at found
  constructor
  · intro there
    obtain ⟨first, cached⟩ := Option.ne_none_iff_exists'.mp there
    rw [LookupState.findPath_cached soundBefore caseSensitive plain cached] at found ⊢
    rw [LookupState.findPath_cached soundAfter caseSensitive plain cached]
    refine ⟨found, ?_⟩
    simp only [LookupState.noted_tree]
    rfl
  · intro free
    have other : Text.lower path.first ≠ Text.lower key := by
      intro same
      rw [← Tree.child?_lower, same, Tree.child?_lower, loaded] at free
      cases free
    obtain ⟨inner, compound⟩ := named.resolve_left other
    refine ⟨other, ?_⟩
    have holdsAfter := holds.disabledUnder none key
    have withheld := Registry.disabledUnder_none_enabled? (start.run operations).registry key
    rw [← Registry.enabled?_lower] at withheld
    rw [← disabled_registry] at holdsAfter withheld
    exact LookupState.findPath_withheld holdsAfter soundAfter (undotted_lower.mpr dotless) withheld
      plain compound free caseSensitive

/-- A session that has made the compound names of the files' schema. -/
def flattenedFiles : List Operation :=
  filesAndSession ++ [.ask 0 (.child "dfs.tmp" false)]

/-- It finds the inner schema under its compound name after the files are disabled. -/
theorem dfs_tmp_kept : ∃ session,
    ((empty .immediate).run flattenedFiles).sessions[0]? = some session ∧
    ((((empty .immediate).run flattenedFiles).disabled "dfs").findPath session ⟨"dfs.tmp", []⟩
      false).answer = .ok (some 3) := by
  have undotted : ∀ operation ∈ flattenedFiles,
      operation.Brings fun connector => Undotted connector.name := by
    intro operation hm
    simp only [flattenedFiles, filesAndSession, List.mem_append, List.mem_cons, List.not_mem_nil,
      or_false] at hm
    rcases hm with (rfl | rfl) | rfl
    · show Undotted "dfs"
      decide
    · trivial
    · trivial
  obtain ⟨session, opened⟩ :=
    Option.isSome_iff_exists.mp (show
      ((empty .immediate).run flattenedFiles).sessions[0]?.isSome by decide +kernel)
  have seen : (((empty .immediate).run flattenedFiles).sessions[0]?.map fun session =>
      (session.tree.child? Tree.root "dfs", session.tree.child? Tree.root "dfs.tmp",
        ((empty .immediate).run flattenedFiles).aliasTarget? session "dfs.tmp",
        (((empty .immediate).run flattenedFiles).findPath session ⟨"dfs.tmp", []⟩ false).answer)) =
      some (some 1, some 3, none, .ok (some 3)) := by decide +kernel
  rw [opened, Option.map_some, Option.some.injEq, Prod.mk.injEq, Prod.mk.injEq,
    Prod.mk.injEq] at seen
  obtain ⟨loaded, there, plain, found⟩ := seen
  have dotless : Undotted "dfs" := by decide
  have named : ∃ inner, Text.lower "dfs.tmp" = Tree.compoundName (Text.lower "dfs") inner :=
    ⟨"tmp", by decide +kernel⟩
  obtain ⟨kept, _⟩ := @found_after_disabling (empty .immediate) rfl rfl flattenedFiles undotted 0
    session opened "dfs" dotless 1 loaded ⟨"dfs.tmp", []⟩ (Or.inr named) plain false 3 found
  exact ⟨session, opened, (kept (by rw [there]; exact Option.some_ne_none 3)).1⟩

/-- A session that has loaded the files' schema and made no compound name finds the inner schema
under its compound name, but not after the files are disabled. -/
theorem dfs_tmp_hidden :
    let loaded := (empty .immediate).run (filesAndSession ++ [.ask 0 (.child "dfs" false)])
    (loaded.sessions[0]?.map fun session => session.tree.child? Tree.root "dfs") =
        some (some 1) ∧
      (loaded.sessions[0]?.map fun session => loaded.aliasTarget? session "dfs.tmp") = some none ∧
      (loaded.sessions[0]?.map fun session =>
        (loaded.findPath session ⟨"dfs.tmp", []⟩ false).answer) = some (.ok (some 3)) ∧
      (loaded.sessions[0]?.map fun session =>
        ((loaded.disabled "dfs").findPath session ⟨"dfs.tmp", []⟩ false).answer) =
          some (.ok none) := by
  decide +kernel

end Catalog

end FederatedCatalog
