import FederatedCatalog.Description.Schema
import FederatedCatalog.Proofs.Reached

namespace FederatedCatalog

theorem Path.parents_append (first table : String) (rest : List String) :
    Path.parents ⟨first, rest ++ [table]⟩ = first :: rest := by
  rw [Path.parents, Path.segments, ← List.cons_append, List.dropLast_concat]

theorem Path.last_append (first table : String) (rest : List String) :
    Path.last ⟨first, rest ++ [table]⟩ = table := by
  rw [Path.last, List.getLast?_concat]
  rfl

theorem Tree.walk?_append (tree : Tree) (id : NodeId) (first second : List String) :
    tree.walk? id (first ++ second) =
      (tree.walk? id first).bind fun mid => tree.walk? mid second := by
  induction first generalizing id with
  | nil => rfl
  | cons name rest ih =>
    simp only [List.cons_append, Tree.walk?, ih, Option.bind_assoc]

def LookupState.behind (state : LookupState) (earlier : Trace) : LookupState :=
  { state with trace := earlier ++ state.trace }

def LookupRun.behind {α : Type} (run : LookupRun α) (earlier : Trace) : LookupRun α :=
  ⟨run.answer, run.after.behind earlier⟩

namespace LookupRun

variable {α β : Type} (run : LookupRun α) (earlier : Trace)

theorem andThen_behind {next : α → LookupState → LookupRun β}
    (h : ∀ answer state, next answer (state.behind earlier) = (next answer state).behind earlier) :
    (run.behind earlier).andThen next = (run.andThen next).behind earlier := by
  obtain ⟨answer, after⟩ := run
  cases answer with
  | error error => rfl
  | ok answer => exact h answer after

theorem read_behind (value : α → Tree → β) :
    (run.behind earlier).read value = (run.read value).behind earlier := rfl

end LookupRun

namespace LookupState

variable (state : LookupState) (earlier : Trace) (context : LookupContext)

@[simp] theorem behind_tree : (state.behind earlier).tree = state.tree := rfl

@[simp] theorem behind_registry : (state.behind earlier).registry = state.registry := rfl

theorem record_behind (event : Event) :
    (state.behind earlier).record event = (state.record event).behind earlier := by
  simp only [record, behind, Array.push_append]

theorem note_behind (notice : Notice) :
    (state.behind earlier).note notice = (state.note notice).behind earlier :=
  record_behind state earlier (.notice notice)

theorem disable_behind (lock? : Option String) (name : String) :
    (state.behind earlier).disable lock? name = (state.disable lock? name).behind earlier := by
  unfold disable
  simp only [record_behind, behind_registry]
  cases (state.record (.disableAsked name)).registry.setEnabledUnder lock? name false with
  | ok registry => rfl
  | error error => exact note_behind _ earlier _

theorem giveUp_behind (schema connector : String) (failures : Exhausted) :
    (state.behind earlier).giveUp context schema connector failures =
      (state.giveUp context schema connector failures).behind earlier := by
  unfold giveUp
  simp only [note_behind]
  split
  · rw [disable_behind]
    rfl
  · rfl

theorem register_behind (schema : String) (connector : Connector) :
    (state.behind earlier).register context schema connector =
      (state.register context schema connector).behind earlier := by
  unfold register
  simp only [behind, Array.append_assoc]
  split
  · rfl
  · refine Eq.trans ?_ (giveUp_behind _ earlier context schema connector.name _)
    rfl

theorem firstLevel_behind (schema outer : String) (connector : Connector) :
    (state.behind earlier).firstLevel context schema outer connector =
      (state.firstLevel context schema outer connector).behind earlier := by
  unfold firstLevel
  simp only [behind_tree, register_behind]
  cases state.tree.child? Tree.root outer with
  | some id => rfl
  | none =>
    apply LookupRun.andThen_behind
    intro _ after
    simp only [behind_tree, note_behind]
    cases after.tree.child? Tree.root outer <;> rfl

theorem flatten_behind (outer : String) (parent : NodeId) :
    (state.behind earlier).flatten outer parent = (state.flatten outer parent).behind earlier := by
  unfold flatten
  simp only [behind_tree]
  cases state.tree.uncompoundable? parent <;> rfl

theorem load_behind (name : String) :
    (state.behind earlier).load context name = (state.load context name).behind earlier := by
  unfold load
  simp only [behind_registry, register_behind, firstLevel_behind]
  cases state.registry.enabled? name with
  | some connector => rfl
  | none =>
    simp only
    split
    next outer inner _ =>
      cases state.registry.enabled? outer with
      | none => rfl
      | some connector =>
        apply LookupRun.andThen_behind
        intro parent? after
        cases parent? with
        | none => rfl
        | some parent => exact flatten_behind after earlier outer parent
    next => rfl

theorem findSchema_behind (name : String) :
    (state.behind earlier).findSchema context name =
      (state.findSchema context name).behind earlier := by
  unfold findSchema
  simp only [behind_tree, note_behind, load_behind]
  cases state.tree.child? Tree.root (Text.lower name) <;> rfl

/-- The state before anything was seen. -/
def untraced (state : LookupState) : LookupState :=
  { state with trace := #[] }

theorem noted_untraced (notices : List Notice) :
    (state.noted notices).untraced = state.untraced := by
  obtain ⟨trace, h⟩ := state.noted_eq notices
  rw [h]
  rfl

theorem findSchema_untraced (name : String) :
    state.findSchema context name =
      (state.untraced.findSchema context name).behind state.trace := by
  have whole : state.untraced.behind state.trace = state := by
    simp only [untraced, behind, Array.append_empty]
  rw [← findSchema_behind, whole]

section Alias

variable {state context} {name target : String} {path : Path}

theorem findPath_of_alias (sound : state.tree.Sound)
    (aliased : context.aliases.namespaceAlias context.settings.user name = some target)
    (parsed : Path.parse target = .ok path) (rest : List String) (caseSensitive : Bool) :
    state.findPath context ⟨name, rest⟩ caseSensitive =
      ((state.noted [.resolving name caseSensitive, .schemaAlias name path]).findSchema context
        path.first).read fun id? tree => id?.bind fun id => tree.walk? id (path.rest ++ rest) := by
  rw [findPath_eq sound]
  simp only [findChild, aliased, parsed, LookupRun.read_read, Tree.walk?_append, Option.bind_assoc]
  rfl

theorem findPath_alias_agrees {state other : LookupState} (sound : state.tree.Sound)
    (alike : state.untraced = other.untraced)
    (aliased : context.aliases.namespaceAlias context.settings.user name = some target)
    (parsed : Path.parse target = .ok path)
    (plain : context.aliases.namespaceAlias context.settings.user path.first = none)
    (rest : List String) (caseSensitive : Bool) : ∃ run : LookupRun (Option NodeId),
      state.findPath context ⟨name, rest⟩ caseSensitive =
        run.behind (state.noted [.resolving name caseSensitive, .schemaAlias name path]).trace ∧
      other.findPath context ⟨path.first, path.rest ++ rest⟩ caseSensitive =
        run.behind (other.noted [.resolving path.first caseSensitive]).trace := by
  have same := congrArg LookupState.tree alike
  have sound' : other.tree.Sound := (congrArg Tree.Sound same).mp sound
  have long : other.findPath context ⟨path.first, path.rest ++ rest⟩ caseSensitive =
      ((other.noted [.resolving path.first caseSensitive]).findSchema context path.first).read
        fun id? tree => id?.bind fun id => tree.walk? id (path.rest ++ rest) :=
    findPath_of_no_alias sound' (path.rest ++ rest) caseSensitive plain
  refine ⟨(state.untraced.findSchema context path.first).read fun id? tree =>
    id?.bind fun id => tree.walk? id (path.rest ++ rest), ?_, ?_⟩
  · rw [findPath_of_alias sound aliased parsed, findSchema_untraced, noted_untraced,
      LookupRun.read_behind]
  · rw [long, findSchema_untraced, noted_untraced, ← alike, LookupRun.read_behind]

theorem findAliasedTable_of_target {short : String} {first table : String} {rest : List String}
    (aliased : context.aliases.tableAlias context.settings.user short = some target)
    (parsed : Path.parse target = .ok ⟨first, rest ++ [table]⟩) (caseSensitive : Bool) :
    state.findAliasedTable context short caseSensitive =
      ((state.note (.tableAlias short ⟨first, rest ++ [table]⟩)).findPath context ⟨first, rest⟩
        caseSensitive).read fun id? tree =>
          id?.bind fun id => tree.table? id table caseSensitive := by
  simp only [findAliasedTable, aliased, parsed, Path.parents_append, Path.last_append]
  rfl

end Alias

end LookupState

/-- An alias for a namespace stands for the path that its target is written as, if that path begins
with no alias. In every tree that a session comes to have, and whatever connectors there are, a path
that begins with the alias leads to the same end as the path with the target in its place, and so
does an alias for a table that stands for such a path. Of the two lookups the same is seen, but for
the lines that name what is looked up. -/
theorem Tree.Reached.namespaceAlias_stands_for_target {state : LookupState}
    (reached : state.tree.Reached) {context : LookupContext} {name target : String} {path : Path}
    (aliased : context.aliases.namespaceAlias context.settings.user name = some target)
    (parsed : Path.parse target = .ok path)
    (plain : context.aliases.namespaceAlias context.settings.user path.first = none)
    (rest : List String) (caseSensitive : Bool) :
    (∃ run : LookupRun (Option NodeId),
      state.findPath context ⟨name, rest⟩ caseSensitive =
        run.behind (state.noted [.resolving name caseSensitive, .schemaAlias name path]).trace ∧
      state.findPath context ⟨path.first, path.rest ++ rest⟩ caseSensitive =
        run.behind (state.noted [.resolving path.first caseSensitive]).trace) ∧
    ∀ {short long shortTarget longTarget table : String},
      context.aliases.tableAlias context.settings.user short = some shortTarget →
      Path.parse shortTarget = .ok ⟨name, rest ++ [table]⟩ →
      context.aliases.tableAlias context.settings.user long = some longTarget →
      Path.parse longTarget = .ok ⟨path.first, path.rest ++ rest ++ [table]⟩ →
      ∃ run : LookupRun (Option TableEntry),
        state.findAliasedTable context short caseSensitive =
          run.behind (state.noted [.tableAlias short ⟨name, rest ++ [table]⟩,
            .resolving name caseSensitive, .schemaAlias name path]).trace ∧
        state.findAliasedTable context long caseSensitive =
          run.behind (state.noted [.tableAlias long ⟨path.first, path.rest ++ rest ++ [table]⟩,
            .resolving path.first caseSensitive]).trace := by
  have agrees := fun {state other : LookupState} (sound : state.tree.Sound)
    (alike : state.untraced = other.untraced) =>
      LookupState.findPath_alias_agrees sound alike aliased parsed plain rest caseSensitive
  refine ⟨agrees reached.sound rfl, ?_⟩
  intro short long shortTarget longTarget table hshort hshortPath hlong hlongPath
  have noted : ∀ notice, (state.note notice).tree.Sound := fun _ => reached.sound
  obtain ⟨run, hrun, hrun'⟩ := @agrees
    (state.note (.tableAlias short ⟨name, rest ++ [table]⟩))
    (state.note (.tableAlias long ⟨path.first, path.rest ++ rest ++ [table]⟩)) (noted _) rfl
  refine ⟨run.read fun id? tree => id?.bind fun id => tree.table? id table caseSensitive, ?_, ?_⟩
  · rw [LookupState.findAliasedTable_of_target hshort hshortPath, hrun, LookupRun.read_behind]
    rfl
  · rw [LookupState.findAliasedTable_of_target hlong hlongPath, hrun', LookupRun.read_behind]
    rfl

/-- Files in two levels, a short name for the inner one, and two names for a table in it. -/
def linkedFiles : Catalog :=
  (Catalog.empty .immediate).run
    [.register (.described 0 "dfs"
        ⟨[("tmp", ⟨[("old", ⟨[], [("orders", ⟨["id"], none⟩)], none⟩)], [], none⟩)], [], none⟩ 0
        (.unreachable "dfs")) true,
      .addAlias .namespaces (some "test") "fast" "dfs.tmp",
      .addAlias .tables none "short" "fast.old.orders",
      .addAlias .tables none "long" "dfs.tmp.old.orders"]

def linkedContext : LookupContext :=
  linkedFiles.context ⟨.bare, .immediate⟩

def linkedState : LookupState :=
  linkedFiles.state ⟨.bare, .immediate⟩

/-- A session that has loaded nothing finds the inner schema and its table under the short name. -/
theorem fast_stands_for_dfs_tmp :
    (linkedState.findPath linkedContext ⟨"fast", ["old"]⟩ false).answer = .ok (some 3) ∧
    (∃ run : LookupRun (Option NodeId),
      linkedState.findPath linkedContext ⟨"fast", ["old"]⟩ false =
        run.behind (linkedState.noted [.resolving "fast" false,
          .schemaAlias "fast" ⟨"dfs", ["tmp"]⟩]).trace ∧
      linkedState.findPath linkedContext ⟨"dfs", ["tmp", "old"]⟩ false =
        run.behind (linkedState.noted [.resolving "dfs" false]).trace) ∧
    ∃ run : LookupRun (Option TableEntry),
      linkedState.findAliasedTable linkedContext "short" false =
        run.behind (linkedState.noted [.tableAlias "short" ⟨"fast", ["old", "orders"]⟩,
          .resolving "fast" false, .schemaAlias "fast" ⟨"dfs", ["tmp"]⟩]).trace ∧
      linkedState.findAliasedTable linkedContext "long" false =
        run.behind (linkedState.noted [.tableAlias "long" ⟨"dfs", ["tmp", "old", "orders"]⟩,
          .resolving "dfs" false]).trace := by
  have aliased : linkedContext.aliases.namespaceAlias linkedContext.settings.user "fast" =
      some "dfs.tmp" := by decide +kernel
  have plain : linkedContext.aliases.namespaceAlias linkedContext.settings.user "dfs" = none := by
    decide +kernel
  have short : linkedContext.aliases.tableAlias linkedContext.settings.user "short" =
      some "fast.old.orders" := by decide +kernel
  have long : linkedContext.aliases.tableAlias linkedContext.settings.user "long" =
      some "dfs.tmp.old.orders" := by decide +kernel
  have parsed : Path.parse "dfs.tmp" = .ok ⟨"dfs", ["tmp"]⟩ := by decide +kernel
  have shortParsed : Path.parse "fast.old.orders" = .ok ⟨"fast", ["old", "orders"]⟩ := by
    decide +kernel
  have longParsed : Path.parse "dfs.tmp.old.orders" = .ok ⟨"dfs", ["tmp", "old", "orders"]⟩ := by
    decide +kernel
  have reached : linkedState.tree.Reached := .bare
  obtain ⟨paths, tables⟩ :=
    reached.namespaceAlias_stands_for_target aliased parsed plain ["old"] false
  exact ⟨by decide +kernel, paths, tables short shortParsed long longParsed⟩

end FederatedCatalog
