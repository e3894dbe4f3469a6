import FederatedCatalog.Proofs.OwnSchema

namespace FederatedCatalog

/-- A connector that never fails, and that adds nothing but one schema, of its own name, with what
is inside. The name has no dot. -/
structure Connector.Steady (connector : Connector) : Prop where
  dotless : Undotted connector.name
  succeeds : ∀ call, (connector.attempt call).failure? = none
  own : ∀ call, ∃ inside,
    (connector.attempt call).additions = [.schema connector.name none inside]

/-- A connector that registers a schema as described and never fails, with a dotless name. -/
def Connector.Unfailing (connector : Connector) : Prop :=
  ∃ serial name schema failure, Undotted name ∧ connector = .described serial name schema 0 failure

theorem Connector.Unfailing.steady {connector : Connector} (unfailing : connector.Unfailing) :
    connector.Steady := by
  obtain ⟨serial, name, schema, failure, dotless, rfl⟩ := unfailing
  exact ⟨dotless, fun _ => rfl, fun call => ⟨schema.additions serial call [], rfl⟩⟩

/-- The tree that a registration leaves, whatever it was for. -/
def LookupState.grownBy (state : LookupState) (context : LookupContext) (connector : Connector) :
    Tree :=
  (connector.retry context.settings context.interrupts (state.calls.of connector.serial)).grow
    connector.name state.tree

namespace Connector

namespace Steady

variable {connector : Connector}

theorem addsOwn (steady : connector.Steady) (call : Nat) : connector.AddsOwn call :=
  steady.own call

theorem register (steady : connector.Steady) (state : LookupState) (context : LookupContext)
    (schema : String) : (state.register context schema connector).answer = .ok () ∧
      (state.register context schema connector).after.registry = state.registry ∧
      (state.register context schema connector).after.tree = state.grownBy context connector := by
  obtain ⟨last, _, _, _, ⟨_, houtcome⟩ | ⟨hfailed, _⟩⟩ :=
    connector.retry_outcome context.settings context.interrupts (state.calls.of connector.serial)
  · refine ⟨?_, ?_, ?_⟩ <;> simp only [LookupState.register, LookupState.grownBy, houtcome]
  · exact absurd (steady.succeeds last) hfailed

theorem grownBy_gains (steady : connector.Steady) {state : LookupState} (sound : state.tree.Sound)
    (context : LookupContext) : ∃ call,
      state.tree.Gains (state.grownBy context connector) (connector.added call) := by
  obtain ⟨last, _, _, _, ⟨_, houtcome⟩ | ⟨hfailed, _⟩⟩ :=
    connector.retry_outcome context.settings context.interrupts (state.calls.of connector.serial)
  · refine ⟨last, ?_⟩
    simp only [LookupState.grownBy, houtcome, RetryRun.grow]
    exact Tree.register_gains sound connector.name (connector.attempt last).additions
  · exact absurd (steady.succeeds last) hfailed

end Steady

end Connector

theorem Registry.Holds.enabled?_compoundName {registry : Registry}
    (undotted : registry.Holds fun connector => Undotted connector.name) {outer inner : String}
    (lowered : Text.lower (Tree.compoundName outer inner) = Tree.compoundName outer inner) :
    registry.enabled? (Tree.compoundName outer inner) = none := by
  cases h : registry.enabled? (Tree.compoundName outer inner) with
  | none => rfl
  | some connector =>
    obtain ⟨hname, hconnector⟩ := undotted.enabled? h
    have dotless := undotted_lower.mpr hconnector
    rw [← hname, lowered] at dotless
    exact absurd dotless (Tree.not_undotted_compoundName outer inner)

end FederatedCatalog
