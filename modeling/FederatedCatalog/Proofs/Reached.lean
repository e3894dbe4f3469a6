import FederatedCatalog.Proofs.Run

namespace FederatedCatalog

namespace Tree

/-- The bare tree, and what lookups make of a tree that they come to have. Between two lookups the
connectors, their calls, the aliases and the settings may change in any way. -/
inductive Reached : Tree → Prop
  | bare : Reached .bare
  | ask {state : LookupState} (reached : Reached state.tree) (context : LookupContext)
      (question : Question) : Reached (question.ask context state).after.tree

theorem Reached.sound {tree : Tree} (reached : tree.Reached) : tree.Sound := by
  induction reached with
  | bare => exact sound_bare
  | ask _ context question ih => exact (LookupState.ask_course ih question).steps.sound ih

end Tree

namespace Catalog

/-- The trees of all sessions are ones that sessions come to have. -/
theorem run_reached {start : Catalog} (fresh : start.sessions = #[]) (operations : List Operation) :
    (start.run operations).Sessions Tree.Reached := by
  have go : ∀ {catalog : Catalog}, catalog.Sessions Tree.Reached →
      (catalog.run operations).Sessions Tree.Reached := by
    induction operations with
    | nil => exact fun sessions => sessions
    | cons operation rest ih =>
      intro catalog sessions
      apply ih
      exact sessions.perform_of_asked .bare
        (fun _ session question h => .ask (sessions h).2 (catalog.context session) question)
        operation
  exact go (sessions_of_fresh fresh _)

end Catalog

end FederatedCatalog
