import FederatedCatalog.Proofs.AliasMap

namespace FederatedCatalog

/-- If a run blames an alias, then it is one that the user has, and its target is no path. -/
def LookupRun.Fair {α : Type} (context : LookupContext) (run : LookupRun α) : Prop :=
  ∀ ⦃kind : AliasKind⦄ ⦃name target : String⦄ ⦃cause : PathError⦄,
    run.error? = some (.invalidAlias kind name target cause) →
      context.aliases.target? kind context.settings.user name = some target ∧
        Path.parse target = .error cause

namespace LookupRun

variable {α β : Type} {context : LookupContext}

theorem fair_ok (answer : α) (after : LookupState) :
    Fair context ⟨.ok answer, after⟩ := by
  intro kind name target cause h
  cases h

theorem Fair.read {run : LookupRun α} (fair : run.Fair context) (value : α → Tree → β) :
    (run.read value).Fair context := by
  intro kind name target cause h
  rw [error?_read] at h
  exact fair h

theorem Fair.andThen {run : LookupRun α} (fair : run.Fair context)
    {next : α → LookupState → LookupRun β}
    (fair' : ∀ answer after, (next answer after).Fair context) :
    (run.andThen next).Fair context := by
  obtain ⟨answer, after⟩ := run
  cases answer with
  | ok answer => exact fair' answer after
  | error error => exact fair

end LookupRun

namespace LookupState

variable (state : LookupState) (context : LookupContext)

theorem register_fair (schema : String) (connector : Connector) :
    (state.register context schema connector).Fair context := by
  intro kind name target cause h
  rw [LookupRun.error?_eq_some] at h
  obtain ⟨_, _, _, _, ⟨_, succeeded, _⟩ | ⟨_, ⟨failure, failed⟩, _⟩⟩ :=
    state.register_cases context schema connector
  · rw [succeeded] at h
    cases h
  · rw [failed] at h
    cases h

theorem firstLevel_fair (schema outer : String) (connector : Connector) :
    (state.firstLevel context schema outer connector).Fair context := by
  unfold firstLevel
  cases state.tree.child? Tree.root outer with
  | some id => exact LookupRun.fair_ok _ _
  | none =>
    apply (register_fair state context schema connector).andThen
    intro _ after
    split <;> exact LookupRun.fair_ok _ _

theorem flatten_fair (outer : String) (parent : NodeId) :
    (state.flatten outer parent).Fair context := by
  intro kind name target cause h
  unfold flatten at h
  split at h
  next => cases h
  next => cases h

theorem load_fair (name : String) : (state.load context name).Fair context := by
  unfold load
  cases state.registry.enabled? name with
  | some connector => exact register_fair state context name connector
  | none =>
    simp only
    split
    next outer inner _ =>
      cases state.registry.enabled? outer with
      | none => exact LookupRun.fair_ok _ _
      | some connector =>
        apply (firstLevel_fair state context name outer connector).andThen
        intro parent? after
        cases parent? with
        | none => exact LookupRun.fair_ok _ _
        | some parent => exact flatten_fair after context outer parent
    next => exact LookupRun.fair_ok _ _

theorem findSchema_fair (name : String) : (state.findSchema context name).Fair context := by
  unfold findSchema
  simp only
  split
  next => exact LookupRun.fair_ok _ _
  next => exact (load_fair state context (Text.lower name)).read _

theorem findChild_fair (name : String) (caseSensitive : Bool) :
    (state.findChild context name caseSensitive).Fair context := by
  unfold findChild
  cases htarget : context.aliases.namespaceAlias context.settings.user name with
  | none => exact findSchema_fair _ context name
  | some target =>
    simp only
    cases hparse : Path.parse target with
    | ok path => exact (findSchema_fair _ context path.first).read _
    | error cause =>
      intro kind other found blamed h
      cases h
      exact ⟨htarget, hparse⟩

theorem findChildOf_fair (parent : NodeId) (name : String) (caseSensitive : Bool) :
    (state.findChildOf context parent name caseSensitive).Fair context := by
  unfold findChildOf
  split
  · exact findChild_fair state context name caseSensitive
  · exact LookupRun.fair_ok _ _

theorem walk_fair (caseSensitive : Bool) (id : NodeId) (names : List String) :
    (state.walk context caseSensitive id names).Fair context := by
  induction names generalizing state id with
  | nil => exact LookupRun.fair_ok _ _
  | cons name rest ih =>
    apply (findChildOf_fair state context id name caseSensitive).andThen
    intro next? after
    cases next? with
    | none => exact LookupRun.fair_ok _ _
    | some next => exact ih after next

theorem findAliasedTable_fair (name : String) (caseSensitive : Bool) :
    (state.findAliasedTable context name caseSensitive).Fair context := by
  unfold findAliasedTable
  cases htarget : context.aliases.tableAlias context.settings.user name with
  | none => exact LookupRun.fair_ok _ _
  | some target =>
    simp only
    cases hparse : Path.parse target with
    | ok path => exact (walk_fair _ context caseSensitive Tree.root path.parents).read _
    | error cause =>
      intro kind other found blamed h
      cases h
      exact ⟨htarget, hparse⟩

end LookupState

/-- An alias that is blamed for the end of a lookup is to blame. -/
theorem Question.ask_blames (context : LookupContext) (state : LookupState)
    (question : Question) : (question.ask context state).Fair context := by
  cases question with
  | child name caseSensitive => exact (state.findChild_fair context name caseSensitive).read _
  | childOf parent name caseSensitive =>
    exact (state.findChildOf_fair context parent name caseSensitive).read _
  | path target caseSensitive =>
    exact (state.walk_fair context caseSensitive Tree.root target.segments).read _
  | aliasedTable name caseSensitive =>
    exact (state.findAliasedTable_fair context name caseSensitive).read _
  | table name caseSensitive =>
    exact ((state.findAliasedTable_fair context name caseSensitive).read _).read _

namespace AliasMap

def Leads (map : AliasMap) : Prop :=
  ∀ ⦃key : AliasKey⦄ ⦃target : String⦄, map key = some target →
    ∃ path, Path.parse target = .ok path

variable {map : AliasMap}

theorem Leads.update_none (leads : map.Leads) (key : AliasKey) :
    Leads (Function.update map key none) := by
  intro other target h
  rw [Function.update_apply] at h
  split at h
  next => cases h
  next => exact leads h

theorem Leads.update_some (leads : map.Leads) (key : AliasKey) {target : String}
    (allowed : map.allows key target = .ok ()) :
    Leads (Function.update map key (some target)) := by
  intro other found h
  rw [Function.update_apply] at h
  split at h
  next =>
    cases h
    unfold allows at allowed
    split at allowed
    next => cases allowed
    next path parsed => exact ⟨path, parsed⟩
  next => exact leads h

theorem Leads.perform (leads : map.Leads) (operation : Operation) :
    Leads (map.perform operation) := by
  cases operation with
  | addAlias kind owner? name target =>
    cases allowed : map.allows ⟨kind, owner?, name⟩ target with
    | error error =>
      simp only [AliasMap.perform, allowed]
      exact leads
    | ok _ =>
      simp only [AliasMap.perform, allowed]
      exact leads.update_some ⟨kind, owner?, name⟩ allowed
  | removeAlias kind owner? name => exact leads.update_none ⟨kind, owner?, name⟩
  | _ => exact leads

theorem Leads.run (leads : map.Leads) (operations : List Operation) :
    Leads (map.run operations) := by
  induction operations generalizing map with
  | nil => exact leads
  | cons operation rest ih => exact ih (leads.perform operation)

theorem Leads.seenBy (leads : map.Leads) {kind : AliasKind} {user name target : String}
    (h : map.seenBy kind user name = some target) : ∃ path, Path.parse target = .ok path := by
  rcases Option.or_eq_some_iff.mp h with h | ⟨_, h⟩
  · exact leads h
  · exact leads h

end AliasMap

namespace Catalog

theorem perform_substitute (catalog : Catalog) (operation : Operation) :
    (catalog.perform operation).2.2.substitute? = catalog.substitute? := by
  cases operation with
  | ask number question =>
    simp only [perform, ask]
    cases catalog.sessions[number]? <;> rfl
  | openSession settings? => rfl
  | register connector enabled =>
    simp only [perform]
    cases catalog.registry.register connector enabled <;> rfl
  | remove name =>
    simp only [perform]
    cases catalog.registry.remove name <;> rfl
  | setEnabled name enabled =>
    simp only [perform]
    cases catalog.registry.setEnabled name enabled <;> rfl
  | sessionSetEnabled name enabled =>
    simp only [perform]
    cases catalog.registry.setEnabledUnder catalog.lock? name enabled <;> rfl
  | addAlias kind owner? name target =>
    simp only [perform]
    cases catalog.aliases.add kind owner? name target <;> rfl
  | removeAlias kind owner? name => rfl

theorem run_substitute (catalog : Catalog) (operations : List Operation) :
    (catalog.run operations).substitute? = catalog.substitute? := by
  induction operations generalizing catalog with
  | nil => rfl
  | cons operation rest ih =>
    exact (ih (catalog.perform operation).2.2).trans (catalog.perform_substitute operation)

/-- If the aliases of a catalog passed the check in the beginning, no lookup ever ends with the
blame of one, whatever has been done to the aliases since, by whomever, and whatever the connectors
do. -/
theorem kept_aliases_not_blamed {start : Catalog} (own : start.substitute? = none)
    (checked : start.aliases.check = .ok ()) (operations : List Operation) (number : Nat)
    (question : Question) (kind : AliasKind) (name target : String) (cause : PathError) :
    ((start.run operations).ask number question).1 ≠
      .found (.error (.invalidAlias kind name target cause)) := by
  intro h
  cases hsession : (start.run operations).sessions[number]? with
  | none =>
    simp only [ask, hsession] at h
    cases h
  | some session =>
    rw [ask_eq hsession] at h
    have blamed := LookupRun.error?_eq_some.mpr (Answer.found.inj h)
    obtain ⟨htarget, hparse⟩ := question.ask_blames _ _ blamed
    have source : ((start.run operations).context session).aliases =
        (start.run operations).aliases.source := by
      rw [context, run_substitute, own]
      rfl
    have leads : (start.run operations).aliases.toMap.Leads := by
      rw [(start.run_toMap operations).1]
      exact AliasMap.Leads.run (fun _ _ => Aliases.parse_of_check checked) operations
    rw [source, Aliases.source_target?] at htarget
    obtain ⟨path, parsed⟩ := leads.seenBy htarget
    rw [hparse] at parsed
    cases parsed

def shortcut : Catalog :=
  { Catalog.empty .immediate with aliases := ⟨⟨[("fast", "dfs.tmp")], []⟩, .empty⟩ }

/-- An alias that leads nowhere is refused, so the lookup of its name does not end with its
blame. -/
theorem refused_alias_not_blamed : shortcut.aliases.check = .ok () ∧
    ((shortcut.run [.addAlias .namespaces (some "test") "bad" "dfs..tmp",
      .openSession none]).ask 0 (.child "bad" false)).1 ≠
      .found (.error (.invalidAlias .namespaces "bad" "dfs..tmp" (.emptySegment 4))) := by
  have own : shortcut.substitute? = none := rfl
  have checked : shortcut.aliases.check = .ok () := by decide +kernel
  exact ⟨checked, kept_aliases_not_blamed own checked _ 0 _ .namespaces "bad" "dfs..tmp" _⟩

end Catalog

end FederatedCatalog
