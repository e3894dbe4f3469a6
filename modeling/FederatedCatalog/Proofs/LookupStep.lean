import FederatedCatalog.Lookup.Find
import FederatedCatalog.Proofs.Compound
import FederatedCatalog.Proofs.Merge
import FederatedCatalog.Proofs.Registry
import FederatedCatalog.Proofs.Retry
import Mathlib.Logic.Relation

namespace FederatedCatalog

namespace LookupContext

def loadFailure (context : LookupContext) (schema connector : String) (failures : Exhausted) :
    LoadFailure where
  schema := schema
  connector := connector
  failures := failures
  context := if context.settings.autoDisable then [(Notice.disabling connector).text] else []

/-- The registry after a connector was called in vain. -/
def escalated (context : LookupContext) (registry : Registry) (connector : String) : Registry :=
  if context.settings.autoDisable then registry.disabledUnder context.lock? connector else registry

end LookupContext

namespace LookupState

def noted (state : LookupState) (notices : List Notice) : LookupState :=
  notices.foldl note state

section Noted

variable (state : LookupState) (notices : List Notice)

theorem noted_eq : ∃ trace, state.noted notices = { state with trace } := by
  induction notices generalizing state with
  | nil => exact ⟨state.trace, rfl⟩
  | cons notice rest ih => exact ih (state.note notice)

@[simp] theorem noted_tree : (state.noted notices).tree = state.tree := by
  obtain ⟨_, h⟩ := state.noted_eq notices
  rw [h]

@[simp] theorem noted_registry : (state.noted notices).registry = state.registry := by
  obtain ⟨_, h⟩ := state.noted_eq notices
  rw [h]

@[simp] theorem noted_calls : (state.noted notices).calls = state.calls := by
  obtain ⟨_, h⟩ := state.noted_eq notices
  rw [h]

@[simp] theorem called_mem_noted {serial : Nat} :
    .called serial ∈ (state.noted notices).trace ↔ .called serial ∈ state.trace := by
  induction notices generalizing state with
  | nil => rfl
  | cons notice rest ih =>
    have hrest := ih (state.note notice)
    simpa [noted, note, record] using hrest

end Noted

@[simp] theorem disable_tree (state : LookupState) (lock? : Option String) (name : String) :
    (state.disable lock? name).tree = state.tree := by
  unfold disable
  simp only
  split <;> rfl

@[simp] theorem disable_calls (state : LookupState) (lock? : Option String) (name : String) :
    (state.disable lock? name).calls = state.calls := by
  unfold disable
  simp only
  split <;> rfl

theorem disable_registry (state : LookupState) (lock? : Option String) (name : String) :
    (state.disable lock? name).registry = state.registry.disabledUnder lock? name := by
  simp only [disable, record, Registry.disabledUnder]
  cases state.registry.setEnabledUnder lock? name false <;> rfl

theorem called_mem_disable (state : LookupState) (lock? : Option String) (name : String)
    {serial : Nat} :
    .called serial ∈ (state.disable lock? name).trace ↔ .called serial ∈ state.trace := by
  unfold disable
  simp only
  split <;> simp [note, record]

section GiveUp

variable (state : LookupState) (context : LookupContext) (schema connector : String)
  (failures : Exhausted)

theorem giveUp_answer : (state.giveUp context schema connector failures).answer =
    .error (.load (context.loadFailure schema connector failures)) := by
  unfold giveUp LookupContext.loadFailure
  simp only
  split <;> rfl

theorem giveUp_registry : (state.giveUp context schema connector failures).after.registry =
    context.escalated state.registry connector := by
  unfold giveUp LookupContext.escalated
  simp only
  split
  · exact disable_registry _ _ _
  · rfl

theorem giveUp_tree : (state.giveUp context schema connector failures).after.tree = state.tree := by
  unfold giveUp
  simp only
  split
  · exact disable_tree _ _ _
  · rfl

theorem giveUp_calls :
    (state.giveUp context schema connector failures).after.calls = state.calls := by
  unfold giveUp
  simp only
  split
  · exact disable_calls _ _ _
  · rfl

theorem called_mem_giveUp {serial : Nat} :
    .called serial ∈ (state.giveUp context schema connector failures).after.trace ↔
      .called serial ∈ state.trace := by
  unfold giveUp
  simp only
  split
  · rw [called_mem_disable]
    simp [note, record]
  · simp [note, record]

end GiveUp

section Register

variable (state : LookupState) (context : LookupContext) (schema : String) (connector : Connector)

/-- A registration calls the connector until a call succeeds, and what that call added is merged
into the tree; or every call fails, and the tree stays as it was. -/
theorem register_cases : ∃ last, state.calls.of connector.serial ≤ last ∧
    (state.register context schema connector).after.calls =
      state.calls.set connector.serial (last + 1) ∧
    (∀ call, state.calls.of connector.serial ≤ call → call < last →
      (connector.attempt call).failure? ≠ none) ∧
    ((connector.attempt last).failure? = none ∧
        (state.register context schema connector).answer = .ok () ∧
        (state.register context schema connector).after.registry = state.registry ∧
        (state.register context schema connector).after.tree =
          state.tree.merge (Tree.staged connector.name (connector.attempt last).additions) ∨
      (connector.attempt last).failure? ≠ none ∧
        (∃ failure, (state.register context schema connector).answer = .error (.load failure)) ∧
        (state.register context schema connector).after.tree = state.tree) := by
  obtain ⟨last, hle, hcalls, hfailed, ⟨hsuccess, houtcome⟩ | ⟨hfailure, exhausted, houtcome⟩⟩ :=
    connector.retry_outcome context.settings context.interrupts (state.calls.of connector.serial)
  · refine ⟨last, hle, ?_, hfailed, Or.inl ⟨hsuccess, ?_, ?_, ?_⟩⟩ <;>
      simp only [register, houtcome, hcalls, RetryRun.grow]
  · refine ⟨last, hle, ?_, hfailed, Or.inr ⟨hfailure, ?_, ?_⟩⟩
    · simp only [register, houtcome, hcalls, giveUp_calls]
    · simp only [register, houtcome]
      exact ⟨_, giveUp_answer _ _ _ _ _⟩
    · simp only [register, houtcome, giveUp_tree, RetryRun.grow]

theorem register_error {failure : LoadFailure}
    (h : (state.register context schema connector).answer = .error (.load failure)) :
    ∃ failed : Nat → Failure,
      (∀ i < context.settings.maxAttempts,
        (connector.attempt (state.calls.of connector.serial + i)).failure? = some (failed i)) ∧
      failure = context.loadFailure schema connector.name
        ⟨failed (context.settings.maxAttempts - 1),
          (List.range (context.settings.maxAttempts - 1)).map failed⟩ ∧
      (state.register context schema connector).after.registry =
        context.escalated state.registry connector.name ∧
      (state.register context schema connector).after.tree = state.tree := by
  rcases connector.success_or_failures (state.calls.of connector.serial)
    context.settings.maxAttempts with ⟨count, hcount, succeeded, failed, hall⟩ | ⟨failed, hall⟩
  · simp only [register, Connector.retry_of_success hcount hall succeeded] at h
    cases h
  · simp only [register, Connector.retry_of_failures hall, giveUp_answer] at h
    cases h
    refine ⟨failed, hall, rfl, ?_, ?_⟩
    · simp only [register, Connector.retry_of_failures hall, giveUp_registry]
    · simp only [register, Connector.retry_of_failures hall, giveUp_tree, RetryRun.grow]

theorem register_registry :
    (state.register context schema connector).after.registry = state.registry ∨
      state.registry.setEnabledUnder context.lock? connector.name false =
        .ok (state.register context schema connector).after.registry := by
  obtain ⟨_, _, _, _, ⟨_, _, hregistry, _⟩ | ⟨_, ⟨failure, failed⟩, _⟩⟩ :=
    state.register_cases context schema connector
  · exact Or.inl hregistry
  · obtain ⟨_, _, _, hregistry, _⟩ := register_error state context schema connector failed
    rw [hregistry, LookupContext.escalated]
    split
    · exact state.registry.disabledUnder_cases context.lock? connector.name
    · exact Or.inl rfl

theorem called_mem_register {serial : Nat} :
    .called serial ∈ (state.register context schema connector).after.trace ↔
      .called serial ∈ state.trace ∨ serial = connector.serial := by
  have hrun : .called serial ∈ state.trace ++ (connector.retry context.settings context.interrupts
      (state.calls.of connector.serial)).trace ↔
      .called serial ∈ state.trace ∨ serial = connector.serial := by
    rw [Array.mem_append, connector.retry_trace]
  cases houtcome : (connector.retry context.settings context.interrupts
    (state.calls.of connector.serial)).outcome with
  | ok additions => simpa only [register, houtcome] using hrun
  | error exhausted => simpa only [register, houtcome, called_mem_giveUp] using hrun

end Register

/-- One thing that a lookup does without a call of a connector. -/
inductive QuietStep : LookupState → LookupState → Prop
  | note (state : LookupState) (notice : Notice) : QuietStep state (state.note notice)
  | flatten {state : LookupState} {outer : String} {parent : NodeId} (dotless : Undotted outer)
      (lowered : Text.lower outer = outer)
      (found : state.tree.child? Tree.root outer = some parent)
      (compoundable : state.tree.uncompoundable? parent = none) :
      QuietStep state { state with tree := state.tree.addCompounds outer parent }

/-- One thing that a lookup does. -/
inductive Step (context : LookupContext) : LookupState → LookupState → Prop
  | quiet {state after : LookupState} (quiet : QuietStep state after) : Step context state after
  | register {state : LookupState} {name : String} {connector : Connector} (schema : String)
      (lowered : Text.lower name = name) (free : state.tree.child? Tree.root name = none)
      (serves : state.registry.enabled? name = some connector) :
      Step context state (state.register context schema connector).after

abbrev QuietSteps : LookupState → LookupState → Prop :=
  Relation.ReflTransGen QuietStep

abbrev Steps (context : LookupContext) : LookupState → LookupState → Prop :=
  Relation.ReflTransGen (Step context)

/-- What a lookup does from beginning to end. At most one connector registers, before anything but
notes has been made. -/
inductive Course (context : LookupContext) (state : LookupState) : LookupState → Prop
  | quiet {after : LookupState} (quiet : QuietSteps state after) : Course context state after
  | loading {after : LookupState} {name : String} {connector : Connector} (notices : List Notice)
      (schema : String) (lowered : Text.lower name = name)
      (free : state.tree.child? Tree.root name = none)
      (serves : state.registry.enabled? name = some connector)
      (quiet : QuietSteps ((state.noted notices).register context schema connector).after after) :
      Course context state after

theorem noted_quiet (state : LookupState) (notices : List Notice) :
    QuietSteps state (state.noted notices) := by
  induction notices generalizing state with
  | nil => exact .refl
  | cons notice rest ih => exact .head (.note state notice) (ih (state.note notice))

section Quiet

variable {state after : LookupState}

theorem QuietSteps.steps (quiet : QuietSteps state after)
    (context : LookupContext) : Steps context state after :=
  Relation.ReflTransGen.mono (fun _ _ => Step.quiet) _ _ quiet

theorem QuietSteps.registry_eq (quiet : QuietSteps state after) :
    after.registry = state.registry := by
  induction quiet with
  | refl => rfl
  | tail _ step ih => cases step <;> exact ih

theorem QuietSteps.calls (quiet : QuietSteps state after) : after.calls = state.calls := by
  induction quiet with
  | refl => rfl
  | tail _ step ih => cases step <;> exact ih

theorem QuietSteps.called (quiet : QuietSteps state after) (serial : Nat) :
    .called serial ∈ after.trace ↔ .called serial ∈ state.trace := by
  induction quiet with
  | refl => rfl
  | tail _ step ih =>
    cases step with
    | note notice => exact (called_mem_noted _ [notice]).trans ih
    | flatten => exact ih

end Quiet

namespace Course

variable {context : LookupContext} {state mid after : LookupState}

theorem steps (course : Course context state after) : Steps context state after := by
  cases course with
  | quiet quiet => exact quiet.steps context
  | loading notices schema lowered free serves quiet =>
    have noted := (state.noted_quiet notices).steps context
    refine (noted.tail (.register schema lowered ?_ ?_)).trans (quiet.steps context)
    · rw [noted_tree]
      exact free
    · rw [noted_registry]
      exact serves

theorem trans (course : Course context state mid) (quiet : QuietSteps mid after) :
    Course context state after := by
  cases course with
  | quiet first => exact .quiet (first.trans quiet)
  | loading notices schema lowered free serves first =>
    exact .loading notices schema lowered free serves (first.trans quiet)

theorem of_called (course : Course context state after) {serial : Nat}
    (uncalled : .called serial ∉ state.trace) (called : .called serial ∈ after.trace) :
    ∃ notices schema name connector, connector.serial = serial ∧ Text.lower name = name ∧
      state.tree.child? Tree.root name = none ∧ state.registry.enabled? name = some connector ∧
      QuietSteps ((state.noted notices).register context schema connector).after after := by
  cases course with
  | quiet quiet => exact absurd ((quiet.called serial).mp called) uncalled
  | @loading name connector notices schema lowered free serves quiet =>
    refine ⟨notices, schema, name, connector, ?_, lowered, free, serves, quiet⟩
    rcases (called_mem_register _ context schema connector).mp ((quiet.called serial).mp called)
      with h | h
    · exact absurd ((called_mem_noted state notices).mp h) uncalled
    · exact h.symm

end Course

theorem Step.grown {context : LookupContext} {state after : LookupState}
    (step : Step context state after) (sound : state.tree.Sound) :
    state.tree.Grown after.tree := by
  cases step with
  | quiet quiet =>
    cases quiet with
    | note notice => exact .refl
    | flatten dotless lowered found compoundable =>
      rw [Tree.child?_root sound, lowered] at found
      exact (Tree.addCompounds_gains sound found dotless compoundable).grown
  | register schema lowered free serves =>
    rename_i name connector
    obtain ⟨last, _, _, _, ⟨_, _, _, htree⟩ | ⟨_, _, htree⟩⟩ :=
      state.register_cases context schema connector
    · rw [htree]
      exact (Tree.register_gains sound _ _).grown
    · rw [htree]
      exact .refl

theorem Steps.grown {context : LookupContext} {state after : LookupState}
    (steps : Steps context state after) (sound : state.tree.Sound) :
    state.tree.Grown after.tree := by
  induction steps with
  | refl => exact .refl
  | tail _ step ih => exact ih.trans (step.grown (sound.of_grown ih))

theorem Steps.sound {context : LookupContext} {state after : LookupState}
    (steps : Steps context state after) (sound : state.tree.Sound) : after.tree.Sound :=
  sound.of_grown (steps.grown sound)

theorem QuietSteps.sameBelow {state after : LookupState} (quiet : QuietSteps state after)
    (sound : state.tree.Sound) : state.tree.SameBelow after.tree := by
  induction quiet with
  | refl => exact .refl state.tree
  | tail _ step ih =>
    apply ih.trans
    cases step with
    | note notice => exact .refl _
    | flatten dotless lowered found compoundable =>
      have sound' := sound.of_grown ih.grown
      rw [Tree.child?_root sound', lowered] at found
      exact Tree.addCompounds_sameBelow sound' found dotless compoundable

/-- What a connector adds in the last call of a lookup, if the call succeeds, comes into the tree.
Everything else that the lookup makes lies at the root. -/
theorem Course.gains {context : LookupContext} {state after : LookupState}
    {family : Nat → Connector} {serial call : Nat} (course : Course context state after)
    (sound : state.tree.Sound)
    (told : state.registry.Holds fun connector => connector = family connector.serial)
    (uncalled : .called serial ∉ state.trace) (called : .called serial ∈ after.trace)
    (last : after.calls.of serial = call + 1)
    (succeeded : ((family serial).attempt call).failure? = none) : ∃ mid,
      state.tree.Gains mid
        (.ofAdditions (family serial).name [] ((family serial).attempt call).additions) ∧
      mid.SameBelow after.tree := by
  obtain ⟨notices, schema, name, connector, rfl, _, _, serves, quiet⟩ :=
    course.of_called uncalled called
  rw [← (told.enabled? serves).2] at succeeded ⊢
  obtain ⟨reached, _, hcalls, _, hend⟩ :=
    (state.noted notices).register_cases context schema connector
  have hlast : reached = call := by
    rw [quiet.calls, hcalls, CallCounts.of_set_self] at last
    exact Nat.succ.inj last
  subst hlast
  rcases hend with ⟨_, _, _, htree⟩ | ⟨hfailed, _⟩
  · rw [noted_tree] at htree
    have gains := Tree.register_gains sound connector.name (connector.attempt reached).additions
    rw [← htree] at gains
    exact ⟨_, gains, quiet.sameBelow (sound.of_grown gains.grown)⟩
  · exact absurd succeeded hfailed

end LookupState

end FederatedCatalog
