import FederatedCatalog.Description.Schema
import FederatedCatalog.Proofs.Run

namespace FederatedCatalog.Catalog

theorem run_sound {start : Catalog} (fresh : start.sessions = #[]) (operations : List Operation) :
    (start.run operations).Sessions fun _ => True := by
  have go : ∀ {catalog : Catalog}, catalog.Sessions (fun _ => True) →
      (catalog.run operations).Sessions fun _ => True := by
    induction operations with
    | nil => exact fun sessions => sessions
    | cons operation rest ih =>
      intro catalog sessions
      exact ih (sessions.perform_sound operation)
  exact go (sessions_of_fresh fresh _)

theorem run_session {catalog : Catalog} (operations : List Operation) {number : Nat}
    {session : Session} (h : catalog.sessions[number]? = some session)
    (sound : session.tree.Sound) : ∃ later,
      (catalog.run operations).sessions[number]? = some later ∧
      later.settings = session.settings ∧ session.tree.Grown later.tree := by
  induction operations generalizing catalog session with
  | nil => exact ⟨session, h, rfl, .refl⟩
  | cons operation rest ih =>
    obtain ⟨next, hnext, hsettings, grown⟩ := perform_session operation h sound
    obtain ⟨last, hlast, hsettings', grown'⟩ := ih hnext (sound.of_grown grown)
    exact ⟨last, hlast, hsettings'.trans hsettings, grown.trans grown'⟩

def nodeOf? : Answer → Option NodeId
  | .found (.ok (.node id?)) => id?
  | _ => none

theorem eq_of_nodeOf? {answer : Answer} {id : NodeId} (h : nodeOf? answer = some id) :
    answer = .found (.ok (.node (some id))) := by
  unfold nodeOf? at h
  split at h
  next => rw [h]
  next => cases h

/-- What a name below the root is an alias of, for the user of a session. -/
def aliasTarget? (catalog : Catalog) (session : Session) (name : String) : Option String :=
  (catalog.context session).aliases.namespaceAlias session.settings.user name

/-- A node that a session has found is found again by the same question, however the catalog has
changed since, as long as the first name is an alias of the same path. -/
theorem ask_again {catalog : Catalog} {number : Nat} {session : Session} {question : Question}
    {path : Path} {id : NodeId} (opened : catalog.sessions[number]? = some session)
    (sound : session.tree.Sound) (hnames : question.names? = some path)
    (found : (catalog.ask number question).1 = .found (.ok (.node (some id))))
    (later : List Operation)
    (unchanged : ((catalog.ask number question).2.2.run later).aliasTarget? session path.first =
      catalog.aliasTarget? session path.first) :
    (((catalog.ask number question).2.2.run later).ask number question).1 =
        .found (.ok (.node (some id))) ∧
      ∀ serial, .called serial ∉
        (((catalog.ask number question).2.2.run later).ask number question).2.1 := by
  rw [ask_eq opened] at found
  have steps := catalog.ask_steps sound question
  have sound' := steps.sound sound
  have along := Question.ask_found sound hnames (Answer.found.inj found)
  obtain ⟨last, hlast, hsettings, grown⟩ := run_session later (ask_session opened question) sound'
  have soundLast := sound'.of_grown grown
  have alongLast := grown.keeps.along? sound' soundLast along
  have target : (((catalog.ask number question).2.2.run later).context last).aliases.namespaceAlias
      (((catalog.ask number question).2.2.run later).context last).settings.user path.first =
      (catalog.context session).aliases.namespaceAlias (catalog.context session).settings.user
        path.first := by
    simp only [context, hsettings]
    exact unchanged
  have soundState : (((catalog.ask number question).2.2.run later).state last).tree.Sound :=
    soundLast
  rw [← target] at alongLast
  obtain ⟨notices, hrun⟩ := Question.ask_along soundState hnames alongLast
  rw [ask_eq hlast, hrun]
  refine ⟨rfl, ?_⟩
  intro serial hm
  rw [LookupState.called_mem_noted] at hm
  simp [state] at hm

/-- A session's tree only grows, and what it has can be found ever after. Nodes keep their numbers,
names, parents and kinds, children and tables once found stay, and a question for a node that has
been answered with one is answered with the same node again and calls no connector, unless its first
name has become an alias of something else. -/
theorem sessions_only_grow {start : Catalog} (fresh : start.sessions = #[])
    (before later : List Operation) {number : Nat} {session : Session}
    (opened : (start.run before).sessions[number]? = some session) :
    (∃ grown, ((start.run before).run later).sessions[number]? = some grown ∧
      session.tree.Keeps grown.tree ∧
      (∀ parent name id, session.tree.child? parent name = some id →
        grown.tree.child? parent name = some id) ∧
      ∀ parent name entry, session.tree.table? parent name true = some entry →
        grown.tree.table? parent name true = some entry) ∧
    ∀ {question : Question} {path : Path} {id : NodeId}, question.names? = some path →
      ((start.run before).ask number question).1 = .found (.ok (.node (some id))) →
      (((start.run before).ask number question).2.2.run later).aliasTarget? session path.first =
        (start.run before).aliasTarget? session path.first →
      ((((start.run before).ask number question).2.2.run later).ask number question).1 =
          .found (.ok (.node (some id))) ∧
        ∀ serial, .called serial ∉
          ((((start.run before).ask number question).2.2.run later).ask number question).2.1 := by
  have sound := (run_sound fresh before opened).1
  constructor
  · obtain ⟨last, hlast, _, grown⟩ := run_session later opened sound
    have sound' := sound.of_grown grown
    refine ⟨last, hlast, grown.keeps, ?_, ?_⟩
    · intro parent name id h
      exact grown.keeps.child? sound sound' h
    · intro parent name entry h
      exact grown.keeps.table? sound sound' h
  · intro question path id hnames found unchanged
    exact ask_again opened sound hnames found later unchanged

def files : Operation :=
  .register (.described 0 "dfs" ⟨[("tmp", .empty)], [], none⟩ 0 (.unreachable "dfs")) true

def filesAndSession : List Operation :=
  [files, .openSession none]

/-- A session that has found a connector's schema finds it after the connector is gone. -/
theorem found_after_removal :
    (((((empty .immediate).run filesAndSession).ask 0 (.child "DFS" false)).2.2.run
      [.remove "dfs"]).ask 0 (.child "DFS" false)).1 = .found (.ok (.node (some 1))) := by
  have session : ((empty .immediate).run filesAndSession).sessions[0]? =
      some ⟨.bare, .immediate⟩ := rfl
  have found : (((empty .immediate).run filesAndSession).ask 0 (.child "DFS" false)).1 =
      .found (.ok (.node (some 1))) := eq_of_nodeOf? (by decide +kernel)
  have unchanged : ((((empty .immediate).run filesAndSession).ask 0 (.child "DFS" false)).2.2.run
      [.remove "dfs"]).aliasTarget? ⟨.bare, .immediate⟩ "DFS" =
      ((empty .immediate).run filesAndSession).aliasTarget? ⟨.bare, .immediate⟩ "DFS" := by
    decide +kernel
  have fresh : (empty .immediate).sessions = #[] := rfl
  have grows := sessions_only_grow fresh filesAndSession [.remove "dfs"] session
  have names : (Question.child "DFS" false).names? = some ⟨"DFS", []⟩ := rfl
  exact (grows.2 names found unchanged).1

end FederatedCatalog.Catalog
