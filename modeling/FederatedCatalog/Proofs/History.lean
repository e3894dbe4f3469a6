import FederatedCatalog.Proofs.Agreement
import FederatedCatalog.Proofs.Stability

namespace FederatedCatalog

/-- Whether an operation leaves connectors and aliases alone: it asks something or opens a
session. -/
def Operation.Looks : Operation → Prop
  | .ask _ _ => True
  | .openSession _ => True
  | _ => False

namespace Catalog

/-- What a session sees of the answer to a question. -/
def seen (catalog : Catalog) (session : Session) (question : Question) :
    Except LookupError FoundView :=
  (question.ask (catalog.context session) (catalog.state session)).view

/-- A catalog after lookups: connectors and aliases are what they were, and the trees of sessions
opened since are faithful to the registry. -/
structure LookedUp (base catalog : Catalog) : Prop where
  registry : catalog.registry = base.registry
  aliases : catalog.aliases = base.aliases
  substitute : catalog.substitute? = base.substitute?
  sound : catalog.Sessions fun _ => True
  faithful : ∀ {number session}, base.sessions.size ≤ number →
    catalog.sessions[number]? = some session → session.tree.Faithful base.registry

variable {base catalog : Catalog}

theorem lookedUp_refl (sound : base.Sessions fun _ => True) : base.LookedUp base := by
  refine ⟨rfl, rfl, rfl, sound, ?_⟩
  intro number session hle h
  rw [Array.getElem?_eq_none hle] at h
  cases h

namespace LookedUp

theorem ask (lookedUp : base.LookedUp catalog) (constant : base.registry.Holds Connector.Constant)
    (number : Nat) (question : Question) :
    base.LookedUp (catalog.perform (.ask number question)).2.2 := by
  have sound := Sessions.perform (fun _ => True) lookedUp.sound trivial trivial
    (fun _ _ _ _ _ _ _ => ⟨trivial, trivial⟩) (.ask number question)
  cases hasking : catalog.sessions[number]? with
  | none =>
    have heq : (catalog.perform (.ask number question)).2.2 = catalog := by
      simp only [perform, Catalog.ask, hasking]
    rw [heq]
    exact lookedUp
  | some asking =>
    have steady := constant.mono fun _ constant => constant.toSteady
    rw [← lookedUp.registry] at steady
    have steps := catalog.ask_steps (lookedUp.sound hasking).1 question
    have heq : (catalog.perform (.ask number question)).2.2 = catalog.resume number
        (question.ask (catalog.context asking) (catalog.state asking)).after := by
      simp only [perform, Catalog.ask, hasking]
    rw [heq] at sound ⊢
    refine ⟨(steps.registry_eq steady).trans lookedUp.registry, lookedUp.aliases,
      lookedUp.substitute, sound, ?_⟩
    intro other session hle h
    rw [getElem?_resume] at h
    split at h
    next eq =>
      subst eq
      rw [hasking] at h
      cases Option.some.inj h
      have before := lookedUp.faithful hle hasking
      rw [← lookedUp.registry] at before ⊢
      exact (steps.faithful before).2
    next => exact lookedUp.faithful hle h

theorem openSession (lookedUp : base.LookedUp catalog)
    (constant : base.registry.Holds Connector.Constant) (settings : Settings) :
    base.LookedUp (catalog.openSession settings) := by
  refine ⟨lookedUp.registry, lookedUp.aliases, lookedUp.substitute, ?_, ?_⟩
  · intro number session h
    rcases getElem?_openSession h with h | rfl
    · exact lookedUp.sound h
    · exact ⟨Tree.sound_bare, trivial⟩
  · intro number session hle h
    rcases getElem?_openSession h with h | rfl
    · exact lookedUp.faithful hle h
    · exact ⟨Tree.mirrors_bare base.registry, Tree.sound_bare, constant⟩

theorem run (lookedUp : base.LookedUp catalog) (constant : base.registry.Holds Connector.Constant)
    {history : List Operation} (looks : ∀ operation ∈ history, operation.Looks) :
    base.LookedUp (catalog.run history) := by
  induction history generalizing catalog with
  | nil => exact lookedUp
  | cons operation rest ih =>
    have others := fun other hm => looks other (List.mem_cons_of_mem operation hm)
    have first : base.LookedUp (catalog.perform operation).2.2 := by
      have look := looks operation (by simp)
      cases operation with
      | ask number question => exact lookedUp.ask constant number question
      | openSession settings? => exact lookedUp.openSession constant _
      | _ => exact absurd look id
    exact ih first others

end LookedUp

theorem brings_constant {operations : List Operation}
    (dotless : ∀ operation ∈ operations, operation.Brings Connector.Dotless) :
    ∀ operation ∈ operations, operation.Brings Connector.Constant :=
  fun operation hm => (dotless operation hm).mono fun _ => Connector.Dotless.constant

/-- Loading can not be seen. Once connectors and aliases have been set up, a session opened since
answers every question at the root as a session of the same user would that has nothing loaded,
whatever has been asked before in either catalog. -/
theorem answers_like_fresh {start : Catalog} (empty : start.registry = .empty)
    (fresh : start.sessions = #[]) {setup : List Operation}
    (dotless : ∀ operation ∈ setup, operation.Brings Connector.Dotless)
    {history history' : List Operation} (looks : ∀ operation ∈ history, operation.Looks)
    (looks' : ∀ operation ∈ history', operation.Looks) {number : Nat} {session : Session}
    (since : (start.run setup).sessions.size ≤ number)
    (opened : (start.run (setup ++ history)).sessions[number]? = some session)
    {settings : Settings} (user : settings.user = session.settings.user) {question : Question}
    (atRoot : question.AtRoot) : (start.run (setup ++ history)).seen session question =
      (start.run (setup ++ history')).seen ⟨.bare, settings⟩ question := by
  obtain ⟨constant, sound⟩ : (start.run setup).registry.Holds Connector.Constant ∧
      (start.run setup).Sessions fun _ => True :=
    run_holds empty fresh trivial (fun _ _ _ _ _ _ _ => trivial) (brings_constant dotless)
  have first := (lookedUp_refl sound).run constant looks
  have second := (lookedUp_refl sound).run constant looks'
  rw [run_append] at opened ⊢
  rw [run_append]
  have faithful := first.faithful since opened
  have bare : Tree.bare.Faithful (start.run setup).registry :=
    ⟨Tree.mirrors_bare _, Tree.sound_bare, constant⟩
  rw [← first.registry] at faithful
  rw [← second.registry] at bare
  apply LookupState.ask_view_eq faithful bare (second.registry.trans first.registry.symm) _ user
    atRoot
  simp only [context, first.aliases, first.substitute, second.aliases, second.substitute]

/-- A session that was asked for a compound name sees at the end of a path the schema that a new
session sees there. -/
theorem dfs_tmp_seen_like_fresh : ∃ session,
    ((empty .immediate).run ([files] ++ [.openSession none,
      .ask 0 (.child (Tree.compoundName "dfs" "tmp") false)])).sessions[0]? = some session ∧
    ((empty .immediate).run ([files] ++ [.openSession none,
      .ask 0 (.child (Tree.compoundName "dfs" "tmp") false)])).seen session
        (.path ⟨"dfs", ["tmp"]⟩ false) =
      ((empty .immediate).run ([files] ++ [])).seen ⟨.bare, .immediate⟩
        (.path ⟨"dfs", ["tmp"]⟩ false) ∧
    ((empty .immediate).run ([files] ++ [])).seen ⟨.bare, .immediate⟩
        (.path ⟨"dfs", ["tmp"]⟩ false) =
      .ok (.node (some (some ⟨"dfs.tmp", "CONNECTOR", "dfs.tmp", [], []⟩))) := by
  have dotless : ∀ operation ∈ [files], operation.Brings Connector.Dotless := by
    intro operation hm
    obtain rfl := List.mem_singleton.mp hm
    exact ⟨_, _, _, _, by decide, by decide, rfl⟩
  have looks : ∀ operation ∈ [Operation.openSession none,
      .ask 0 (.child (Tree.compoundName "dfs" "tmp") false)], operation.Looks := by
    intro operation hm
    rcases List.mem_cons.mp hm with rfl | hm
    · trivial
    · obtain rfl := List.mem_singleton.mp hm
      trivial
  have first : ((empty .immediate).run filesAndSession).sessions[0]? =
      some ⟨.bare, .immediate⟩ := rfl
  obtain ⟨session, opened, settings, _⟩ := run_session
    [.ask 0 (.child (Tree.compoundName "dfs" "tmp") false)] first Tree.sound_bare
  refine ⟨session, opened, ?_, by decide +kernel⟩
  exact answers_like_fresh rfl rfl dotless looks (by simp) (Nat.zero_le 0) opened
    (congrArg Settings.user settings.symm) trivial

end Catalog

end FederatedCatalog
