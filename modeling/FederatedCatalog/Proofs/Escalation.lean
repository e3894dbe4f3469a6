import FederatedCatalog.Connector.Script
import FederatedCatalog.Proofs.Atomicity

namespace FederatedCatalog

namespace Registry

/-- One connector that was enabled is disabled, and all else is the same. -/
structure Disables (before after : Registry) (connector : Connector) : Prop where
  enabled : before.entries.get? (Text.lower connector.name) = some ⟨connector, true⟩
  disabled : after.entries.get? (Text.lower connector.name) = some ⟨connector, false⟩
  others : ∀ key ≠ Text.lower connector.name, after.entries.get? key = before.entries.get? key

/-- No connector of that serial number is enabled. -/
def Idle (serial : Nat) (registry : Registry) : Prop :=
  registry.All fun _ found => found.connector.serial = serial → found.enabled = false

variable {registry after : Registry} {connector : Connector} {serial : Nat}

theorem Holds.disables {P : Connector → Prop} (holds : registry.Holds P) {name : String}
    (serves : registry.enabled? name = some connector) :
    registry.Disables (registry.disabledUnder none connector.name) connector := by
  have hentry := enabled?_eq_some.mp serves
  rw [(holds.enabled? serves).1] at hentry
  have hafter : registry.disabledUnder none connector.name =
      ⟨registry.entries.put (Text.lower connector.name) ⟨connector, false⟩⟩ := by
    simp only [Registry.disabledUnder, Registry.setEnabledUnder, Registry.setEnabled, find?, hentry]
  rw [hafter]
  exact ⟨hentry, NameMap.get?_put_self _ _ _,
    fun key hne => NameMap.get?_put_of_ne _ _ (Ne.symm hne)⟩

theorem Disables.holds {P : Connector → Prop} (disables : registry.Disables after connector)
    (holds : registry.Holds P) : after.Holds P := by
  intro key found h
  by_cases eq : key = Text.lower connector.name
  · subst eq
    cases Option.some.inj (disables.disabled.symm.trans h)
    exact ⟨(holds disables.enabled).1, (holds disables.enabled).2⟩
  · rw [disables.others key eq] at h
    exact holds h

theorem Disables.idle {family : Nat → Connector} (disables : registry.Disables after connector)
    (told : registry.Holds fun other => other = family other.serial) :
    after.Idle connector.serial := by
  intro key found h same
  obtain ⟨hkey, hfound⟩ := disables.holds told h
  have hconnector : found.connector = connector := by
    rw [hfound, same]
    exact (told disables.enabled).2.symm
  rw [hkey, hconnector, disables.disabled] at h
  cases Option.some.inj h
  rfl

theorem Idle.serial_ne (idle : registry.Idle serial) {name : String}
    (h : registry.enabled? name = some connector) : connector.serial ≠ serial := by
  intro eq
  cases idle (enabled?_eq_some.mp h) eq

theorem Idle.setEnabledUnder_false (idle : registry.Idle serial) {lock? : Option String}
    {name : String} (h : registry.setEnabledUnder lock? name false = .ok after) :
    after.Idle serial :=
  All.setEnabledUnder idle (fun _ _ _ => rfl) h

end Registry

namespace LookupContext

variable {context : LookupContext}

theorem escalated_of_unlocked (auto : context.settings.autoDisable = true)
    (unlocked : context.lock? = none) (registry : Registry) (connector : String) :
    context.escalated registry connector = registry.disabledUnder none connector := by
  rw [escalated, if_pos auto, unlocked]

theorem escalated_eq_self (h : context.settings.autoDisable = false ∨ context.lock? ≠ none)
    (registry : Registry) (connector : String) :
    context.escalated registry connector = registry := by
  rcases h with auto | locked
  · simp [escalated, auto]
  · obtain ⟨reason, hreason⟩ := Option.ne_none_iff_exists'.mp locked
    rw [escalated, hreason]
    exact ite_self registry

end LookupContext

namespace LookupState

variable {context : LookupContext} {state after : LookupState} {asked? : Option String}
  {error? : Option LookupError} {serial : Nat}

theorem Ending.registry_eq (ending : Ending context state asked? error? after)
    (h : ∀ failure, error? ≠ some (.load failure)) : after.registry = state.registry := by
  cases ending with
  | done prepared quiet => exact quiet.registry_eq.trans prepared.registry_eq
  | failed => exact absurd rfl (h _)
  | unexpected prepared => exact prepared.registry_eq
  | invalidAlias notices => exact state.noted_registry notices

theorem Ending.failed_load {failure : LoadFailure}
    (ending : Ending context state asked? (some (.load failure)) after) :
    ∃ connector schema name, ∃ failed : Nat → Failure,
      state.registry.enabled? name = some connector ∧ asked? = some schema ∧
      (∀ serial, .called serial ∈ after.trace ↔
        .called serial ∈ state.trace ∨ serial = connector.serial) ∧
      (∀ i < context.settings.maxAttempts,
        (connector.attempt (state.calls.of connector.serial + i)).failure? = some (failed i)) ∧
      failure = context.loadFailure schema connector.name
        ⟨failed (context.settings.maxAttempts - 1),
          (List.range (context.settings.maxAttempts - 1)).map failed⟩ ∧
      after.registry = context.escalated state.registry connector.name := by
  cases ending with
  | failed notices asked lowered free serves answer =>
    rename_i schema name connector
    obtain ⟨failed, hfailed, hfailure, hregistry, _⟩ :=
      (state.noted notices).register_error context schema connector answer
    rw [noted_calls] at hfailed
    rw [noted_registry] at hregistry
    refine ⟨connector, schema, name, failed, serves, asked, ?_, hfailed, hfailure, hregistry⟩
    intro serial
    rw [called_mem_register, called_mem_noted]

theorem Step.idle (step : Step context state after) (idle : state.registry.Idle serial) :
    after.registry.Idle serial ∧
      (.called serial ∈ after.trace ↔ .called serial ∈ state.trace) := by
  cases step with
  | quiet quiet =>
    cases quiet with
    | note notice => exact ⟨idle, state.called_mem_noted [notice]⟩
    | flatten => exact ⟨idle, Iff.rfl⟩
  | register schema lowered free serves =>
    rename_i name connector
    constructor
    · rcases state.register_registry context schema connector with h | h
      · rw [h]
        exact idle
      · exact idle.setEnabledUnder_false h
    · rw [called_mem_register, or_iff_left (idle.serial_ne serves).symm]

theorem Steps.idle (steps : Steps context state after) (idle : state.registry.Idle serial) :
    after.registry.Idle serial ∧
      (.called serial ∈ after.trace ↔ .called serial ∈ state.trace) := by
  induction steps with
  | refl => exact ⟨idle, Iff.rfl⟩
  | tail _ step ih =>
    obtain ⟨idle', hcalled⟩ := step.idle ih.1
    exact ⟨idle', hcalled.trans ih.2⟩

end LookupState

namespace Catalog

/-- Whether an operation enables a connector, or brings it in enabled. An operation that fails, or
that is about another connector of the name, does not. -/
def Readmits (catalog : Catalog) (serial : Nat) : Operation → Prop
  | .register connector enabled =>
    enabled = true ∧ connector.serial = serial ∧ catalog.registry.find? connector.name = none
  | .setEnabled name enabled =>
    enabled = true ∧ (catalog.registry.find? name).map (·.connector.serial) = some serial
  | .sessionSetEnabled name enabled =>
    enabled = true ∧ catalog.lock? = none ∧
      (catalog.registry.find? name).map (·.connector.serial) = some serial
  | _ => False

/-- Whether no operation of a run readmits a connector when its turn comes. -/
def Withholds (serial : Nat) (catalog : Catalog) : List Operation → Prop
  | [] => True
  | operation :: rest =>
    ¬catalog.Readmits serial operation ∧ (catalog.perform operation).2.2.Withholds serial rest

section Idle

variable {catalog : Catalog} {serial : Nat}

theorem ask_idle {I : Tree → Prop} (sessions : catalog.Sessions I)
    (idle : catalog.registry.Idle serial) (number : Nat) (question : Question) :
    (catalog.ask number question).2.2.registry.Idle serial ∧
      .called serial ∉ (catalog.ask number question).2.1 := by
  cases hsession : catalog.sessions[number]? with
  | none =>
    simp only [ask, hsession]
    exact ⟨idle, by simp⟩
  | some session =>
    have steps := catalog.ask_steps (sessions hsession).1 question
    obtain ⟨idle', hcalled⟩ := steps.idle idle
    rw [ask_eq hsession]
    refine ⟨idle', ?_⟩
    rw [hcalled]
    simp [state]

theorem setEnabled_idle (idle : catalog.registry.Idle serial) {name : String} {enabled : Bool}
    {after : Registry} (h : catalog.registry.setEnabled name enabled = .ok after)
    (untouched : ¬(enabled = true ∧
      (catalog.registry.find? name).map (·.connector.serial) = some serial)) :
    after.Idle serial := by
  obtain ⟨found, hfound, rfl⟩ := Registry.setEnabled_eq_ok.mp h
  refine Registry.All.put idle fun same => Bool.eq_false_iff.mpr fun htrue => untouched ⟨htrue, ?_⟩
  rw [hfound]
  exact congrArg some same

theorem perform_idle {I : Tree → Prop} (sessions : catalog.Sessions I)
    (idle : catalog.registry.Idle serial) {operation : Operation}
    (untouched : ¬catalog.Readmits serial operation) :
    (catalog.perform operation).2.2.registry.Idle serial := by
  cases operation with
  | ask number question => exact (ask_idle sessions idle number question).1
  | openSession settings? => exact idle
  | register other enabled =>
    simp only [perform]
    cases h : catalog.registry.register other enabled with
    | error error => exact idle
    | ok after =>
      refine Registry.All.register idle (fun same => ?_) h
      have free := (Registry.register_eq_ok.mp h).1
      exact Bool.eq_false_iff.mpr fun htrue => untouched ⟨htrue, same, free⟩
  | remove name =>
    simp only [perform]
    cases h : catalog.registry.remove name with
    | error error => exact idle
    | ok removed => exact Registry.All.remove idle h
  | setEnabled name enabled =>
    simp only [perform]
    cases h : catalog.registry.setEnabled name enabled with
    | error error => exact idle
    | ok after => exact setEnabled_idle idle h untouched
  | sessionSetEnabled name enabled =>
    simp only [perform]
    cases hlock : catalog.lock? with
    | some reason => exact idle
    | none =>
      cases h : catalog.registry.setEnabledUnder none name enabled with
      | error error => exact idle
      | ok after =>
        have changed := Registry.setEnabled_of_setEnabledUnder h
        exact setEnabled_idle idle changed fun enables => untouched ⟨enables.1, hlock, enables.2⟩
  | addAlias kind owner? name target =>
    simp only [perform]
    cases catalog.aliases.add kind owner? name target <;> exact idle
  | removeAlias kind owner? name => exact idle

/-- Only an operation that readmits a connector can make a session call it again. -/
theorem run_idle (sessions : catalog.Sessions fun _ => True)
    (idle : catalog.registry.Idle serial) {operations : List Operation}
    (withheld : catalog.Withholds serial operations) (number : Nat) (question : Question) :
    .called serial ∉ ((catalog.run operations).ask number question).2.1 := by
  induction operations generalizing catalog with
  | nil => exact (ask_idle sessions idle number question).2
  | cons operation rest ih =>
    obtain ⟨untouched, withheld⟩ := withheld
    exact ih (sessions.perform_sound operation) (perform_idle sessions idle untouched) withheld

end Idle

/-- What comes of a connector that was called in vain for a session's question. -/
structure Escalation (before after : Catalog) (session : Session) (question : Question)
    (trace : Trace) (failure : LoadFailure) (connector : Connector) : Prop where
  called : ∀ serial, .called serial ∈ trace ↔ serial = connector.serial
  named : failure.connector = connector.name
  schema : question.rootName? (before.context session) = some failure.schema
  failures : ∃ failed : Nat → Failure,
    (∀ i < session.settings.maxAttempts,
      (connector.attempt (before.calls.of connector.serial + i)).failure? = some (failed i)) ∧
    failure.cause = failed (session.settings.maxAttempts - 1) ∧
    failure.failures.previous = (List.range (session.settings.maxAttempts - 1)).map failed
  attempts : failure.attempts = session.settings.maxAttempts
  /-- Whether or not it could be disabled. -/
  context : failure.context =
    if session.settings.autoDisable then [(Notice.disabling connector.name).text] else []
  disabled : session.settings.autoDisable = true → before.lock? = none →
    before.registry.Disables after.registry connector
  kept : session.settings.autoDisable = false ∨ before.lock? ≠ none →
    after.registry = before.registry

/-- A lookup changes the registry only if a connector was called in vain, and then that connector is
disabled if the settings and the lock allow it, and is not called for any session until it is
enabled or registered again. `family` has the connectors by their serial numbers. -/
theorem failed_load_escalates {start : Catalog} (empty : start.registry = .empty)
    (fresh : start.sessions = #[]) {family : Nat → Connector} {operations : List Operation}
    (told : ∀ operation ∈ operations,
      operation.Brings fun connector => connector = family connector.serial)
    {number : Nat} {session : Session}
    (opened : (start.run operations).sessions[number]? = some session) {question : Question}
    {answer : Except LookupError Found} {trace : Trace} {after : Catalog}
    (asked : (start.run operations).ask number question = (.found answer, trace, after)) :
    ((∀ failure, answer ≠ .error (.load failure)) →
      after.registry = (start.run operations).registry) ∧
    ∀ failure, answer = .error (.load failure) → ∃ connector,
      Escalation (start.run operations) after session question trace failure connector ∧
      (session.settings.autoDisable = true → (start.run operations).lock? = none →
        ∀ later : List Operation, after.Withholds connector.serial later →
          ∀ number question,
            .called connector.serial ∉ ((after.run later).ask number question).2.1) := by
  obtain ⟨holds, sessions⟩ : (start.run operations).registry.Holds
      (fun connector => connector = family connector.serial) ∧
      (start.run operations).Sessions fun _ => True :=
    run_holds empty fresh trivial (fun _ _ _ _ _ _ _ => trivial) told
  have ending : LookupState.Ending ((start.run operations).context session)
      ((start.run operations).state session)
      (question.rootName? ((start.run operations).context session))
      (question.ask ((start.run operations).context session)
        ((start.run operations).state session)).error?
      (question.ask ((start.run operations).context session)
        ((start.run operations).state session)).after :=
    LookupState.ask_ending (sessions opened).1 question
  have sessions' := sessions.perform_sound (.ask number question)
  rw [perform, ask_eq opened] at sessions'
  rw [ask_eq opened] at asked
  -- What the question is does not matter any more, only how its run ends.
  generalize question.ask ((start.run operations).context session)
    ((start.run operations).state session) = run at ending sessions' asked
  cases asked
  constructor
  · intro h
    apply ending.registry_eq
    exact fun failure hfailure => h failure (LookupRun.error?_eq_some.mp hfailure)
  · intro failure h
    rw [LookupRun.error?_eq_some.mpr h] at ending
    obtain ⟨connector, schema, name, failed, serves, hschema, hcalled, hfailed, rfl, hregistry⟩ :=
      ending.failed_load
    have disables : session.settings.autoDisable = true → (start.run operations).lock? = none →
        (start.run operations).registry.Disables run.after.registry connector := by
      intro auto unlocked
      rw [hregistry, LookupContext.escalated_of_unlocked auto unlocked]
      exact holds.disables serves
    refine ⟨connector, ⟨?_, rfl, hschema, ⟨failed, hfailed, rfl, rfl⟩, ?_, rfl, disables, ?_⟩, ?_⟩
    · intro serial
      rw [hcalled]
      simp [state]
    · simp [LoadFailure.attempts, LookupContext.loadFailure, context,
        Nat.sub_add_cancel session.settings.maxAttempts_pos]
    · intro h
      exact hregistry.trans (LookupContext.escalated_eq_self h _ _)
    · intro auto unlocked later withheld number question
      exact run_idle sessions' ((disables auto unlocked).idle holds) withheld number question

def sinkingConnector : Connector :=
  .scripted 0 "Down" [⟨[], some (.unreachable "bow")⟩, ⟨[], some (.unreachable "stern")⟩]

/-- Two attempts, and then the connector is disabled. -/
def watchful : Settings :=
  { Settings.immediate with retryAttempts := 1, autoDisable := true }

def twoSessions : List Operation :=
  [.register sinkingConnector true, .openSession (some watchful), .openSession none]

/-- One session does not call the connector that the other one has called in vain. -/
theorem sinkingConnector_disabled : ∃ trace after connector,
    ((empty .immediate).run twoSessions).ask 0 (.child "DOWN.x" false) =
      (.found (.error (.load ⟨"down.x", "Down", ⟨.unreachable "stern", [.unreachable "bow"]⟩,
        [(Notice.disabling "Down").text]⟩)), trace, after) ∧
    ((empty .immediate).run twoSessions).registry.Disables after.registry connector ∧
    .called connector.serial ∉
      ((after.run [.ask 1 (.child "down" false)]).ask 1 (.child "down.x" false)).2.1 := by
  have told : ∀ operation ∈ twoSessions,
      operation.Brings fun connector => connector = sinkingConnector := by
    intro operation hm
    simp only [twoSessions, List.mem_cons, List.not_mem_nil, or_false] at hm
    rcases hm with rfl | rfl | rfl
    · rfl
    · trivial
    · trivial
  have opened : ((empty .immediate).run twoSessions).sessions[0]? = some ⟨.bare, watchful⟩ := rfl
  have asked := ask_eq opened (.child "DOWN.x" false)
  have failed : ((Question.child "DOWN.x" false).ask
      (((empty .immediate).run twoSessions).context ⟨.bare, watchful⟩)
      (((empty .immediate).run twoSessions).state ⟨.bare, watchful⟩)).error? =
      some (.load ⟨"down.x", "Down", ⟨.unreachable "stern", [.unreachable "bow"]⟩,
        [(Notice.disabling "Down").text]⟩) := by decide +kernel
  rw [LookupRun.error?_eq_some] at failed
  obtain ⟨connector, escalation, silent⟩ :=
    (@failed_load_escalates _ rfl rfl (fun _ => sinkingConnector) twoSessions told 0 _ opened
      (.child "DOWN.x" false) _ _ _ asked).2 _ failed
  rw [failed] at asked
  refine ⟨_, _, connector, asked, escalation.disabled rfl rfl, ?_⟩
  apply silent rfl rfl
  exact ⟨id, trivial⟩

end Catalog

end FederatedCatalog
