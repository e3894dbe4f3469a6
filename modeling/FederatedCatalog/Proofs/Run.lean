import FederatedCatalog.Proofs.Cached
import FederatedCatalog.Proofs.Registry

namespace FederatedCatalog

/-- Whether the connectors that an operation brings in have a property. -/
def Operation.Brings (P : Connector → Prop) : Operation → Prop
  | .register connector _ => P connector
  | _ => True

theorem Operation.Brings.mono {P Q : Connector → Prop} {operation : Operation}
    (brings : operation.Brings P) (h : ∀ connector, P connector → Q connector) :
    operation.Brings Q := by
  cases operation with
  | register connector enabled => exact h connector brings
  | _ => trivial

theorem Operation.Brings.and {P Q : Connector → Prop} {operation : Operation}
    (brings : operation.Brings P) (brings' : operation.Brings Q) :
    operation.Brings fun connector => P connector ∧ Q connector := by
  cases operation with
  | register connector enabled => exact ⟨brings, brings'⟩
  | _ => trivial

namespace LookupState

variable {P : Connector → Prop} {R : Registry → Prop} {context : LookupContext}
  {state after : LookupState}

theorem Step.registry (lasting : Registry.Lasting P R) (step : Step context state after)
    (holds : R state.registry) : R after.registry := by
  cases step with
  | quiet quiet => cases quiet <;> exact holds
  | register schema lowered free serves =>
    rename_i name connector
    rcases state.register_registry context schema connector with h | h
    · rw [h]
      exact holds
    · exact lasting.setEnabledUnder holds h

theorem Steps.registry (lasting : Registry.Lasting P R) (steps : Steps context state after)
    (holds : R state.registry) : R after.registry := by
  induction steps with
  | refl => exact holds
  | tail _ step ih => exact step.registry lasting ih

end LookupState

namespace Catalog

/-- The catalog after operations. -/
def run (catalog : Catalog) (operations : List Operation) : Catalog :=
  operations.foldl (fun catalog operation => (catalog.perform operation).2.2) catalog

@[simp] theorem run_nil (catalog : Catalog) : catalog.run [] = catalog := rfl

@[simp] theorem run_cons (catalog : Catalog) (operation : Operation) (rest : List Operation) :
    catalog.run (operation :: rest) = (catalog.perform operation).2.2.run rest := rfl

theorem run_append (catalog : Catalog) (first second : List Operation) :
    catalog.run (first ++ second) = (catalog.run first).run second :=
  List.foldl_append

/-- The trees of all sessions are sound and have a property. -/
def Sessions (I : Tree → Prop) (catalog : Catalog) : Prop :=
  ∀ ⦃number : Nat⦄ ⦃session : Session⦄, catalog.sessions[number]? = some session →
    session.tree.Sound ∧ I session.tree

theorem ask_eq {catalog : Catalog} {number : Nat} {session : Session}
    (h : catalog.sessions[number]? = some session) (question : Question) :
    catalog.ask number question =
      (.found (question.ask (catalog.context session) (catalog.state session)).answer,
        (question.ask (catalog.context session) (catalog.state session)).after.trace,
        catalog.resume number
          (question.ask (catalog.context session) (catalog.state session)).after) := by
  simp only [ask, h]

theorem called_not_mem_state (catalog : Catalog) (session : Session) (serial : Nat) :
    .called serial ∉ (catalog.state session).trace := by
  simp [state]

theorem ask_ending (catalog : Catalog) {session : Session} (sound : session.tree.Sound)
    (question : Question) : LookupState.Ending (catalog.context session) (catalog.state session)
      (question.rootName? (catalog.context session))
      (question.ask (catalog.context session) (catalog.state session)).error?
      (question.ask (catalog.context session) (catalog.state session)).after :=
  LookupState.ask_ending sound question

theorem ask_course (catalog : Catalog) {session : Session} (sound : session.tree.Sound)
    (question : Question) : LookupState.Course (catalog.context session) (catalog.state session)
      (question.ask (catalog.context session) (catalog.state session)).after :=
  LookupState.ask_course sound question

theorem ask_steps (catalog : Catalog) {session : Session} (sound : session.tree.Sound)
    (question : Question) : LookupState.Steps (catalog.context session) (catalog.state session)
      (question.ask (catalog.context session) (catalog.state session)).after :=
  (catalog.ask_course sound question).steps

/-- An operation is a lookup of a session, or it opens a session, or it leaves all sessions as they
are. -/
theorem perform_cases (catalog : Catalog) (operation : Operation) :
    (∃ number question session, operation = .ask number question ∧
      catalog.sessions[number]? = some session ∧ (catalog.perform operation).2.2 =
        catalog.resume number
          (question.ask (catalog.context session) (catalog.state session)).after) ∨
    (∃ settings, (catalog.perform operation).2.2 = catalog.openSession settings) ∨
    (catalog.perform operation).2.2.sessions = catalog.sessions := by
  cases operation with
  | ask number question =>
    cases hsession : catalog.sessions[number]? with
    | none =>
      refine Or.inr (Or.inr ?_)
      simp only [perform, ask, hsession]
    | some session =>
      refine Or.inl ⟨number, question, session, rfl, hsession, ?_⟩
      rw [perform, ask_eq hsession]
  | openSession settings? => exact Or.inr (Or.inl ⟨_, rfl⟩)
  | register connector enabled =>
    refine Or.inr (Or.inr ?_)
    simp only [perform]
    cases catalog.registry.register connector enabled <;> rfl
  | remove name =>
    refine Or.inr (Or.inr ?_)
    simp only [perform]
    cases catalog.registry.remove name <;> rfl
  | setEnabled name enabled =>
    refine Or.inr (Or.inr ?_)
    simp only [perform]
    cases catalog.registry.setEnabled name enabled <;> rfl
  | sessionSetEnabled name enabled =>
    refine Or.inr (Or.inr ?_)
    simp only [perform]
    cases catalog.registry.setEnabledUnder catalog.lock? name enabled <;> rfl
  | addAlias kind owner? name target =>
    refine Or.inr (Or.inr ?_)
    simp only [perform]
    cases catalog.aliases.add kind owner? name target <;> rfl
  | removeAlias kind owner? name => exact Or.inr (Or.inr rfl)

theorem getElem?_resume (catalog : Catalog) (number other : Nat) (after : LookupState) :
    (catalog.resume number after).sessions[other]? =
      if number = other then (catalog.sessions[other]?).map fun session =>
        { session with tree := after.tree }
      else catalog.sessions[other]? := by
  simp only [resume, Array.getElem?_modify]

theorem ask_session {catalog : Catalog} {number : Nat} {session : Session}
    (h : catalog.sessions[number]? = some session) (question : Question) :
    (catalog.ask number question).2.2.sessions[number]? =
      some ⟨(question.ask (catalog.context session) (catalog.state session)).after.tree,
        session.settings⟩ := by
  rw [ask_eq h, getElem?_resume, if_pos rfl, h]
  rfl

theorem getElem?_openSession {catalog : Catalog} {settings : Settings} {number : Nat}
    {session : Session} (h : (catalog.openSession settings).sessions[number]? = some session) :
    catalog.sessions[number]? = some session ∨ session = ⟨.bare, settings⟩ := by
  simp only [openSession, Array.getElem?_push] at h
  split at h
  next => exact Or.inr (Option.some.inj h).symm
  next => exact Or.inl h

/-- A session goes on through every operation. It keeps its settings, and its tree only grows. -/
theorem perform_session {catalog : Catalog} (operation : Operation) {number : Nat}
    {session : Session} (h : catalog.sessions[number]? = some session)
    (sound : session.tree.Sound) : ∃ later,
      (catalog.perform operation).2.2.sessions[number]? = some later ∧
      later.settings = session.settings ∧ session.tree.Grown later.tree := by
  rcases catalog.perform_cases operation with
    ⟨asked, question, asking, rfl, hasking, heq⟩ | ⟨settings, heq⟩ | heq
  · rw [heq, getElem?_resume]
    split
    next eq =>
      subst eq
      cases Option.some.inj (hasking.symm.trans h)
      have steps := catalog.ask_steps sound question
      refine ⟨⟨(question.ask (catalog.context session) (catalog.state session)).after.tree,
        session.settings⟩, ?_, rfl, steps.grown sound⟩
      rw [h]
      rfl
    next => exact ⟨session, h, rfl, .refl⟩
  · rw [heq]
    refine ⟨session, ?_, rfl, .refl⟩
    have hlt := (Array.getElem?_eq_some_iff.mp h).1
    simp only [openSession, Array.getElem?_push, if_neg (Nat.ne_of_lt hlt), h]
  · rw [heq]
    exact ⟨session, h, rfl, .refl⟩

theorem Sessions.perform_of_asked {I : Tree → Prop} {catalog : Catalog}
    (sessions : catalog.Sessions I) (bare : I .bare)
    (asked : ∀ ⦃number : Nat⦄ ⦃session : Session⦄ (question : Question),
      catalog.sessions[number]? = some session →
        I (question.ask (catalog.context session) (catalog.state session)).after.tree)
    (operation : Operation) : (catalog.perform operation).2.2.Sessions I := by
  intro number session h
  rcases catalog.perform_cases operation with
    ⟨asker, question, asking, rfl, hasking, heq⟩ | ⟨settings, heq⟩ | heq
  · rw [heq, getElem?_resume] at h
    split at h
    next eq =>
      subst eq
      rw [hasking] at h
      cases Option.some.inj h
      have steps := catalog.ask_steps (sessions hasking).1 question
      exact ⟨steps.sound (sessions hasking).1, asked question hasking⟩
    next => exact sessions h
  · rw [heq] at h
    rcases getElem?_openSession h with h | rfl
    · exact sessions h
    · exact ⟨Tree.sound_bare, bare⟩
  · rw [heq] at h
    exact sessions h

/-- What the empty tree has and every step of a lookup preserves is had by the trees of all
sessions. `R` is what is known of the registry meanwhile. -/
theorem Sessions.perform {I : Tree → Prop} (R : Registry → Prop) {catalog : Catalog}
    (sessions : catalog.Sessions I) (registry : R catalog.registry) (bare : I .bare)
    (preserved : ∀ ⦃context : LookupContext⦄ ⦃state after : LookupState⦄,
      LookupState.Step context state after → state.tree.Sound → R state.registry → I state.tree →
        R after.registry ∧ I after.tree) (operation : Operation) :
    (catalog.perform operation).2.2.Sessions I := by
  have whole : ∀ ⦃context : LookupContext⦄ ⦃state after : LookupState⦄,
      LookupState.Steps context state after → state.tree.Sound → R state.registry →
        I state.tree → after.tree.Sound ∧ R after.registry ∧ I after.tree := by
    intro context state after steps sound hregistry htree
    induction steps with
    | refl => exact ⟨sound, hregistry, htree⟩
    | tail _ step ih => exact ⟨ih.1.of_grown (step.grown ih.1), preserved step ih.1 ih.2.1 ih.2.2⟩
  refine sessions.perform_of_asked bare ?_ operation
  intro number session question h
  obtain ⟨sound, htree⟩ := sessions h
  have steps := catalog.ask_steps sound question
  exact (whole steps sound registry htree).2.2

theorem Sessions.perform_sound {catalog : Catalog} (sessions : catalog.Sessions fun _ => True)
    (operation : Operation) : (catalog.perform operation).2.2.Sessions fun _ => True :=
  sessions.perform_of_asked trivial (fun _ _ _ _ => trivial) operation

theorem perform_registry {P : Connector → Prop} {R : Registry → Prop}
    (lasting : Registry.Lasting P R) {I : Tree → Prop} {catalog : Catalog}
    (holds : R catalog.registry) (sessions : catalog.Sessions I) {operation : Operation}
    (brings : operation.Brings P) : R (catalog.perform operation).2.2.registry := by
  cases operation with
  | ask number question =>
    cases hsession : catalog.sessions[number]? with
    | none => simpa only [perform, ask, hsession] using holds
    | some session =>
      rw [perform, ask_eq hsession]
      exact (catalog.ask_steps (sessions hsession).1 question).registry lasting holds
  | openSession settings? => exact holds
  | register connector enabled =>
    simp only [perform]
    cases h : catalog.registry.register connector enabled with
    | error error => exact holds
    | ok after => exact lasting.register holds brings h
  | remove name =>
    simp only [perform]
    cases h : catalog.registry.remove name with
    | error error => exact holds
    | ok removed => exact lasting.remove holds h
  | setEnabled name enabled =>
    simp only [perform]
    cases h : catalog.registry.setEnabled name enabled with
    | error error => exact holds
    | ok after => exact lasting.setEnabled holds h
  | sessionSetEnabled name enabled =>
    simp only [perform]
    cases h : catalog.registry.setEnabledUnder catalog.lock? name enabled with
    | error error => exact holds
    | ok after => exact lasting.setEnabledUnder holds h
  | addAlias kind owner? name target =>
    simp only [perform]
    cases catalog.aliases.add kind owner? name target <;> exact holds
  | removeAlias kind owner? name => exact holds

theorem run_registry {P : Connector → Prop} {R : Registry → Prop}
    (lasting : Registry.Lasting P R) {catalog : Catalog} (holds : R catalog.registry)
    (sessions : catalog.Sessions fun _ => True) {operations : List Operation}
    (brings : ∀ operation ∈ operations, operation.Brings P) :
    R (catalog.run operations).registry := by
  induction operations generalizing catalog with
  | nil => exact holds
  | cons operation rest ih =>
    apply ih
    · exact perform_registry lasting holds sessions (brings operation (by simp))
    · exact sessions.perform_sound operation
    · exact fun other hm => brings other (List.mem_cons_of_mem operation hm)

theorem sessions_of_fresh {start : Catalog} (fresh : start.sessions = #[]) (I : Tree → Prop) :
    start.Sessions I := by
  intro number session h
  simp [fresh] at h

/-- A run that brings in connectors with a property only, from a catalog without connectors and
sessions. What such connectors preserve of the empty tree is had by the trees of all sessions. -/
theorem run_holds {P : Connector → Prop} {I : Tree → Prop} {start : Catalog}
    (empty : start.registry = .empty) (fresh : start.sessions = #[]) (bare : I .bare)
    (preserved : ∀ ⦃context : LookupContext⦄ ⦃state after : LookupState⦄,
      LookupState.Step context state after → state.tree.Sound → state.registry.Holds P →
        I state.tree → I after.tree) {operations : List Operation}
    (brings : ∀ operation ∈ operations, operation.Brings P) :
    (start.run operations).registry.Holds P ∧ (start.run operations).Sessions I := by
  have go : ∀ {catalog : Catalog}, catalog.registry.Holds P → catalog.Sessions I →
      (catalog.run operations).registry.Holds P ∧ (catalog.run operations).Sessions I := by
    induction operations with
    | nil => exact fun holds sessions => ⟨holds, sessions⟩
    | cons operation rest ih =>
      intro catalog holds sessions
      apply ih fun other hm => brings other (List.mem_cons_of_mem operation hm)
      · exact perform_registry Registry.lasting_holds holds sessions (brings operation (by simp))
      · exact Sessions.perform (Registry.Holds P) sessions holds bare
          (fun _ _ _ step sound holds tree =>
            ⟨step.registry Registry.lasting_holds holds, preserved step sound holds tree⟩) operation
  apply go
  · rw [empty]
    exact Registry.holds_empty
  · exact sessions_of_fresh fresh I

theorem run_brings {P : Connector → Prop} {start : Catalog} (empty : start.registry = .empty)
    (fresh : start.sessions = #[]) {operations : List Operation}
    (brings : ∀ operation ∈ operations, operation.Brings P) :
    (start.run operations).registry.Holds P ∧ (start.run operations).Sessions fun _ => True :=
  run_holds empty fresh trivial (fun _ _ _ _ _ _ _ => trivial) brings

end Catalog

end FederatedCatalog
