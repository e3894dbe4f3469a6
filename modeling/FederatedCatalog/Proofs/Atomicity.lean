import FederatedCatalog.Connector.Script
import FederatedCatalog.Proofs.Reached

namespace FederatedCatalog

namespace Tree

theorem Sound.fullName_of_child {tree : Tree} (sound : tree.Sound) {name : String} {id : NodeId}
    (lowered : Text.lower name = name) (h : tree.child? root name = some id) :
    tree.fullName id = name := by
  rw [child?_root sound, lowered] at h
  rw [fullName, (sound.locate?_eq_some_iff.mp h).2]
  simp

end Tree

namespace LookupState

/-- The tree has grown by what a connector added in one call, the last one of the lookup. -/
def Merges (before after : LookupState) (connector : Connector) : Prop :=
  ∃ call, before.calls.of connector.serial ≤ call ∧
    after.calls = before.calls.set connector.serial (call + 1) ∧
    (connector.attempt call).failure? = none ∧
    after.tree = before.tree.merge (Tree.staged connector.name (connector.attempt call).additions)

variable {context : LookupContext} {state mid : LookupState} {asked? : Option String}
  {name : String}

theorem register_ok {schema : String} {connector : Connector}
    (h : (state.register context schema connector).answer = .ok ()) :
    (state.register context schema connector).after.registry = state.registry ∧
      state.Merges (state.register context schema connector).after connector := by
  obtain ⟨call, hle, hcalls, _, ⟨success, _, hregistry, htree⟩ | ⟨_, ⟨failure, failed⟩, _⟩⟩ :=
    state.register_cases context schema connector
  · exact ⟨hregistry, call, hle, hcalls, success, htree⟩
  · rw [h] at failed
    cases failed

theorem Prepared.registry_eq (prepared : Prepared context state asked? name mid) :
    mid.registry = state.registry := by
  cases prepared with
  | noted notices => exact state.noted_registry notices
  | registered notices asked lowered free serves succeeded =>
    rw [(register_ok succeeded).1, noted_registry]

theorem Prepared.tree_cases (prepared : Prepared context state asked? name mid) :
    mid.tree = state.tree ∨
      ∃ connector, state.registry.enabled? name = some connector ∧ state.Merges mid connector := by
  cases prepared with
  | noted notices => exact Or.inl (state.noted_tree notices)
  | registered notices asked lowered free serves succeeded =>
    rename_i schema connector
    have merges := (register_ok succeeded).2
    rw [Merges, noted_calls, noted_tree] at merges
    exact Or.inr ⟨connector, serves, merges⟩

theorem Merges.compound_iff {before after : LookupState} {connector : Connector}
    (merges : before.Merges after connector) (sound : before.tree.Sound) {id target : NodeId} :
    after.tree.kindOf? id = some (.compound target) ↔
      before.tree.kindOf? id = some (.compound target) := by
  obtain ⟨call, _, _, _, htree⟩ := merges
  rw [htree]
  exact (Tree.register_gains sound connector.name _).compound_iff sound
    (Tree.ofAdditions_not_compound connector.name [] _)

end LookupState

/-- A lookup that ends with an error leaves the tree as it was, but for what a connector has
registered before one of its schemas turned out to be of a type that is not expected. Then the tree
has no new compound nodes and the registry is the same. If an alias is invalid, no connector has
been called either. -/
theorem Tree.Reached.ask_error {state : LookupState} (reached : state.tree.Reached)
    (context : LookupContext) (question : Question) :
    (∀ failure, (question.ask context state).answer = .error (.load failure) →
      (question.ask context state).after.tree = state.tree) ∧
    (∀ kind name target cause,
      (question.ask context state).answer = .error (.invalidAlias kind name target cause) →
      (question.ask context state).after.tree = state.tree ∧
      (question.ask context state).after.registry = state.registry ∧
      (question.ask context state).after.calls = state.calls ∧
      ∀ serial, .called serial ∈ (question.ask context state).after.trace ↔
        .called serial ∈ state.trace) ∧
    ∀ schema typeName outer,
      (question.ask context state).answer = .error (.unexpectedSchema schema typeName outer) →
      (question.ask context state).after.registry = state.registry ∧
      (∀ id target,
        (question.ask context state).after.tree.kindOf? id = some (.compound target) ↔
          state.tree.kindOf? id = some (.compound target)) ∧
      ∃ connector, state.registry.enabled? outer = some connector ∧
        ((question.ask context state).after.tree = state.tree ∨
          state.Merges (question.ask context state).after connector) := by
  have sound := reached.sound
  have ending : LookupState.Ending context state (question.rootName? context)
      (question.ask context state).error? (question.ask context state).after :=
    LookupState.ask_ending sound question
  refine ⟨?_, ?_, ?_⟩
  · intro failure h
    rw [LookupRun.error?_eq_some.mpr h] at ending
    generalize (question.ask context state).after = after at ending ⊢
    cases ending with
    | failed notices asked lowered free serves failed =>
      obtain ⟨_, _, _, _, htree⟩ := (state.noted notices).register_error context _ _ failed
      rw [htree, LookupState.noted_tree]
  · intro kind name target cause h
    rw [LookupRun.error?_eq_some.mpr h] at ending
    generalize (question.ask context state).after = after at ending ⊢
    cases ending with
    | invalidAlias notices =>
      exact ⟨state.noted_tree notices, state.noted_registry notices, state.noted_calls notices,
        fun serial => state.called_mem_noted notices⟩
  · intro schema typeName outer h
    rw [LookupRun.error?_eq_some.mpr h] at ending
    generalize (question.ask context state).after = mid at ending ⊢
    cases ending with
    | unexpected prepared dotless lowered serves found blamed =>
      rename_i inner parent kind
      have soundMid := prepared.course.steps.sound sound
      rw [soundMid.fullName_of_child lowered found]
      obtain ⟨connector, hserves⟩ := serves
      refine ⟨prepared.registry_eq, ?_, connector, hserves, ?_⟩
      · rcases prepared.tree_cases with htree | ⟨other, _, merges⟩
        · rw [htree]
          exact fun id target => Iff.rfl
        · exact fun id target => merges.compound_iff sound
      · rcases prepared.tree_cases with htree | ⟨other, hother, merges⟩
        · exact Or.inl htree
        · cases Option.some.inj (hserves.symm.trans hother)
          exact Or.inr merges

/-- A connector with a schema of a type of its own below its first one. -/
def oddConnector : Connector :=
  .scripted 0 "Odd" [⟨[⟨["odd"], none, []⟩, ⟨["odd", "x"], some "WEIRD", []⟩], none⟩]

def downConnector : Connector :=
  .scripted 1 "down" [⟨[⟨["down"], none, []⟩], some (.unreachable "down")⟩]

/-- A user with an alias for what is no path. -/
def troubledContext : LookupContext where
  settings := .immediate
  aliases := ⟨fun _ name => if name = "bad" then some "a." else none, fun _ _ => none⟩
  lock? := none
  interrupts := fun _ => false

def troubledState : LookupState :=
  ((Catalog.empty .immediate).run
    [.register oddConnector true, .register downConnector true]).state ⟨.bare, .immediate⟩

/-- One question for each error. -/
theorem troubledState_errors :
    (∃ failure, ((Question.child "down" false).ask troubledContext troubledState).answer =
        .error (.load failure) ∧
      ((Question.child "down" false).ask troubledContext troubledState).after.tree = .bare) ∧
    ((Question.child "bad" false).ask troubledContext troubledState).answer =
        .error (.invalidAlias .namespaces "bad" "a." (.emptySegment 2)) ∧
    ((Question.child "bad" false).ask troubledContext troubledState).after.tree = .bare ∧
    ((Question.child "odd.x" false).ask troubledContext troubledState).answer =
        .error (.unexpectedSchema "odd.x" "WEIRD" "odd") ∧
    ∃ connector, troubledState.registry.enabled? "odd" = some connector ∧
      (((Question.child "odd.x" false).ask troubledContext troubledState).after.tree = .bare ∨
        troubledState.Merges
          ((Question.child "odd.x" false).ask troubledContext troubledState).after connector) := by
  have reached : troubledState.tree.Reached := .bare
  have down : ∃ failure, ((Question.child "down" false).ask troubledContext troubledState).error? =
      some (.load failure) := ⟨⟨"down", "down", ⟨.unreachable "down", []⟩, []⟩, by decide +kernel⟩
  have bad : ((Question.child "bad" false).ask troubledContext troubledState).error? =
      some (.invalidAlias .namespaces "bad" "a." (.emptySegment 2)) := by decide +kernel
  have odd : ((Question.child "odd.x" false).ask troubledContext troubledState).error? =
      some (.unexpectedSchema "odd.x" "WEIRD" "odd") := by decide +kernel
  obtain ⟨failure, hdown⟩ := down
  rw [LookupRun.error?_eq_some] at hdown bad odd
  have loadKeeps := (reached.ask_error troubledContext (.child "down" false)).1
  have aliasKeeps := (reached.ask_error troubledContext (.child "bad" false)).2.1
  have registered := (reached.ask_error troubledContext (.child "odd.x" false)).2.2
  exact ⟨⟨failure, hdown, loadKeeps _ hdown⟩, bad, (aliasKeeps _ _ _ _ bad).1, odd,
    (registered _ _ _ odd).2.2⟩

end FederatedCatalog
