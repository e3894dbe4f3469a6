import FederatedCatalog.Proofs.FailingConnector

namespace FederatedCatalog

namespace Connector

variable {connector : Connector} {call : Nat} {path : List String}

/-- The connector's call of that number succeeds, and opens a schema of that kind at the path. -/
def Opens (connector : Connector) (call : Nat) (path : List String) (kind : NodeKind) : Prop :=
  (connector.attempt call).failure? = none ∧ (connector.added call).kind path = some kind

/-- The connector's call of that number succeeds, and adds that table at the path. -/
def AddsTable (connector : Connector) (call : Nat) (path : List String) (name : String)
    (entry : TableEntry) : Prop :=
  (connector.attempt call).failure? = none ∧ (connector.added call).table path name = some entry

theorem Opens.owner {owner : String} (opens : connector.Opens call path (.schema owner)) :
    owner = connector.name := by
  obtain ⟨_, hm, _⟩ := Content.mem_of_ofLists_kind opens.2
  obtain ⟨foreignType?, hopened⟩ := Tree.kind_of_mem_allSchemas hm
  cases foreignType? with
  | none => exact NodeKind.schema.inj hopened
  | some typeName => cases hopened

end Connector

/-- A call that has been made, of a connector with a property. -/
def CallCounts.Made (calls : CallCounts) (P : Connector → Prop) (connector : Connector)
    (call : Nat) : Prop :=
  P connector ∧ call < calls.of connector.serial

theorem CallCounts.Made.mono {calls calls' : CallCounts} {P : Connector → Prop}
    {connector : Connector} {call : Nat} (made : calls.Made P connector call)
    (le : ∀ serial, calls.of serial ≤ calls'.of serial) : calls'.Made P connector call :=
  ⟨made.1, Nat.lt_of_lt_of_le made.2 (le connector.serial)⟩

namespace Tree

/-- All that is in a tree, but for its root and its compound nodes, comes from calls of the given
ones that succeeded. -/
structure Sourced (made : Connector → Nat → Prop) (tree : Tree) : Prop where
  opened : ∀ {path kind}, tree.content.kind path = some kind → kind = .root ∨
    (∃ target, kind = .compound target) ∨
    ∃ connector call, made connector call ∧ connector.Opens call path kind
  added : ∀ {path name entry}, tree.content.table path name = some entry →
    ∃ connector call, made connector call ∧ connector.AddsTable call path name entry

theorem sourced_bare (made : Connector → Nat → Prop) : bare.Sourced made := by
  constructor
  · intro path kind h
    rw [content_bare] at h
    obtain ⟨_, hm, _⟩ := Content.mem_of_ofLists_kind h
    cases List.mem_singleton.mp hm
    exact Or.inl rfl
  · intro path name entry h
    rw [content_bare] at h
    cases h

namespace Sourced

variable {made made' : Connector → Nat → Prop} {tree after : Tree}

theorem mono (sourced : tree.Sourced made) (le : ∀ connector call, made connector call →
      (connector.attempt call).failure? = none → made' connector call) :
    tree.Sourced made' := by
  constructor
  · intro path kind h
    rcases sourced.opened h with root | compound | ⟨connector, call, hmade, opens⟩
    · exact Or.inl root
    · exact Or.inr (Or.inl compound)
    · exact Or.inr (Or.inr ⟨connector, call, le connector call hmade opens.1, opens⟩)
  · intro path name entry h
    obtain ⟨connector, call, hmade, adds⟩ := sourced.added h
    exact ⟨connector, call, le connector call hmade adds.1, adds⟩

theorem gains (sourced : tree.Sourced made) {connector : Connector} {call : Nat}
    (hmade : made connector call) (succeeded : (connector.attempt call).failure? = none)
    (gains : tree.Gains after (connector.added call)) : after.Sourced made := by
  constructor
  · intro path kind h
    rw [gains.content] at h
    rcases Option.or_eq_some_iff.mp h with before | ⟨_, new⟩
    · exact sourced.opened before
    · exact Or.inr (Or.inr ⟨connector, call, hmade, succeeded, new⟩)
  · intro path name entry h
    rw [gains.content] at h
    rcases Option.or_eq_some_iff.mp h with before | ⟨_, new⟩
    · exact sourced.added before
    · exact ⟨connector, call, hmade, succeeded, new⟩

theorem addCompounds (sourced : tree.Sourced made) (sound : tree.Sound) {outer : String}
    {parent : NodeId} (hparent : tree.locate? [outer] = some parent) (dotless : Undotted outer)
    (hall : tree.uncompoundable? parent = none) :
    (tree.addCompounds outer parent).Sourced made := by
  constructor
  · intro path kind h
    rcases addCompounds_kind_cases sound hparent dotless hall h with before | compound
    · exact sourced.opened before
    · exact Or.inr (Or.inl compound)
  · intro path name entry h
    rw [addCompounds_table sound hparent dotless hall] at h
    exact sourced.added h

variable {id : NodeId} {node : Node}

theorem node_opened (sourced : tree.Sourced made) (sound : tree.Sound)
    (h : tree.node? id = some node) : node.kind = .root ∨
      (∃ target, node.kind = .compound target) ∨
      ∃ connector call, made connector call ∧
        connector.Opens call (tree.lineage id) node.kind :=
  sourced.opened (content_kind_of_locate? (sound.locate?_lineage (node?_lt h)) h)

theorem table_added (sourced : tree.Sourced made) (sound : tree.Sound)
    (h : tree.node? id = some node) {name : String} {entry : TableEntry}
    (hentry : node.tables.get? name = some entry) :
    ∃ connector call, made connector call ∧
      connector.AddsTable call (tree.lineage id) name entry := by
  apply sourced.added
  rw [content_table_of_locate? (sound.locate?_lineage (node?_lt h)) h]
  exact hentry

end Sourced

end Tree

namespace LookupState

variable {context : LookupContext} {state after : LookupState} {P : Connector → Prop}

theorem Step.calls_le (step : Step context state after) (serial : Nat) :
    state.calls.of serial ≤ after.calls.of serial := by
  cases step with
  | quiet quiet => cases quiet <;> exact Nat.le_refl _
  | register schema lowered free serves =>
    rename_i name connector
    obtain ⟨last, hle, hcalls, _⟩ := state.register_cases context schema connector
    rw [hcalls]
    by_cases h : serial = connector.serial
    · rw [h, CallCounts.of_set_self]
      exact Nat.le_succ_of_le hle
    · rw [CallCounts.of_set_of_ne _ _ h]

theorem Steps.calls_le (steps : Steps context state after) (serial : Nat) :
    state.calls.of serial ≤ after.calls.of serial := by
  induction steps with
  | refl => exact Nat.le_refl _
  | tail _ step ih => exact Nat.le_trans ih (step.calls_le serial)

/-- What a step of a lookup makes comes from a call that has then been made. -/
theorem Step.sourced (step : Step context state after) (sound : state.tree.Sound)
    (holds : state.registry.Holds P) (sourced : state.tree.Sourced (state.calls.Made P)) :
    after.tree.Sourced (after.calls.Made P) := by
  have kept : state.tree.Sourced (after.calls.Made P) :=
    sourced.mono fun _ _ made _ => made.mono step.calls_le
  cases step with
  | quiet quiet =>
    cases quiet with
    | note notice => exact sourced
    | flatten dotless lowered found compoundable =>
      rw [Tree.child?_root sound, lowered] at found
      exact sourced.addCompounds sound found dotless compoundable
  | register schema lowered free serves =>
    rename_i name connector
    obtain ⟨last, _, hcalls, _, ⟨succeeded, _, _, htree⟩ | ⟨_, _, htree⟩⟩ :=
      state.register_cases context schema connector
    · have gains := Tree.register_gains sound connector.name (connector.attempt last).additions
      rw [← htree] at gains
      refine kept.gains ⟨(holds.enabled? serves).2, ?_⟩ succeeded gains
      rw [hcalls, CallCounts.of_set_self]
      exact Nat.lt_succ_self last
    · rw [htree]
      exact kept

theorem Steps.sourced (steps : Steps context state after) (sound : state.tree.Sound)
    (holds : state.registry.Holds P) (sourced : state.tree.Sourced (state.calls.Made P)) :
    after.tree.Sourced (after.calls.Made P) := by
  induction steps with
  | refl => exact sourced
  | tail first step ih =>
    have before : Steps context state _ := first
    exact step.sourced (before.sound sound) (before.registry Registry.lasting_holds holds) ih

end LookupState

namespace Catalog

variable {catalog : Catalog} {P : Connector → Prop}

theorem perform_calls_le {I : Tree → Prop} (sessions : catalog.Sessions I) (operation : Operation)
    (serial : Nat) : catalog.calls.of serial ≤ (catalog.perform operation).2.2.calls.of serial := by
  rcases catalog.perform_calls_cases operation with
    ⟨number, question, session, rfl, opened⟩ | ⟨_, hcalls⟩
  · have steps := catalog.ask_steps (sessions opened).1 question
    rw [perform, ask_eq opened]
    exact steps.calls_le serial
  · rw [hcalls]

/-- The trees of all sessions come from calls that have been made of connectors with a property. -/
def AllSourced (P : Connector → Prop) (catalog : Catalog) : Prop :=
  catalog.Sessions (Tree.Sourced (catalog.calls.Made P))

theorem AllSourced.perform (sourced : catalog.AllSourced P) (holds : catalog.registry.Holds P)
    (operation : Operation) : (catalog.perform operation).2.2.AllSourced P := by
  have kept : ∀ {tree : Tree}, tree.Sourced (catalog.calls.Made P) →
      tree.Sourced ((catalog.perform operation).2.2.calls.Made P) :=
    fun tree => tree.mono fun _ _ made _ => made.mono (perform_calls_le sourced operation)
  intro number session h
  rcases catalog.perform_cases operation with
    ⟨asker, question, asking, rfl, hasking, heq⟩ | ⟨settings, heq⟩ | heq
  · rw [heq, getElem?_resume] at h
    split at h
    next eq =>
      subst eq
      rw [hasking] at h
      cases Option.some.inj h
      have steps := catalog.ask_steps (sourced hasking).1 question
      rw [heq]
      exact ⟨steps.sound (sourced hasking).1,
        steps.sourced (sourced hasking).1 holds (sourced hasking).2⟩
    next => exact ⟨(sourced h).1, kept (sourced h).2⟩
  · rw [heq] at h
    rcases getElem?_openSession h with h | rfl
    · exact ⟨(sourced h).1, kept (sourced h).2⟩
    · exact ⟨Tree.sound_bare, Tree.sourced_bare _⟩
  · rw [heq] at h
    exact ⟨(sourced h).1, kept (sourced h).2⟩

/-- After a run that brings in connectors with a property only, all that sessions have comes from
calls of such connectors. -/
theorem run_sourced {start : Catalog} (empty : start.registry = .empty)
    (fresh : start.sessions = #[]) {operations : List Operation}
    (brings : ∀ operation ∈ operations, operation.Brings P) :
    (start.run operations).AllSourced P := by
  have go : ∀ {catalog : Catalog}, catalog.registry.Holds P → catalog.AllSourced P →
      (catalog.run operations).AllSourced P := by
    induction operations with
    | nil => exact fun _ sourced => sourced
    | cons operation rest ih =>
      intro catalog holds sourced
      apply ih fun other hm => brings other (List.mem_cons_of_mem operation hm)
      · exact perform_registry Registry.lasting_holds holds sourced (brings operation (by simp))
      · exact sourced.perform holds operation
  apply go
  · rw [empty]
    exact Registry.holds_empty
  · exact sessions_of_fresh fresh _

end Catalog

end FederatedCatalog
