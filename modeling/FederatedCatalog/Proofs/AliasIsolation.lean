import FederatedCatalog.Proofs.AliasMap
import FederatedCatalog.Proofs.Stability

namespace FederatedCatalog

/-- Whether an operation changes an alias that another user owns. -/
def Operation.changesOthers (user : String) : Operation → Bool
  | .addAlias _ (some owner) _ _ => owner ≠ user
  | .removeAlias _ (some owner) _ => owner ≠ user
  | _ => false

/-- The second run is the first one with changes of aliases that other users own put in at any
points. -/
inductive Interspersed (user : String) : List Operation → List Operation → Prop
  | nil : Interspersed user [] []
  | common (operation : Operation) {plain mixed : List Operation}
      (rest : Interspersed user plain mixed) :
      Interspersed user (operation :: plain) (operation :: mixed)
  | inserted {operation : Operation} {plain mixed : List Operation}
      (others : operation.changesOthers user = true) (rest : Interspersed user plain mixed) :
      Interspersed user plain (operation :: mixed)

namespace LookupState

section Aliases

variable {context : LookupContext} {source : AliasSource}

theorem register_aliases (state : LookupState) (schema : String) (connector : Connector) :
    state.register { context with aliases := source } schema connector =
      state.register context schema connector := rfl

theorem firstLevel_aliases (state : LookupState) (schema outer : String) (connector : Connector) :
    state.firstLevel { context with aliases := source } schema outer connector =
      state.firstLevel context schema outer connector := by
  simp only [firstLevel, register_aliases]

theorem findSchema_aliases (state : LookupState) (name : String) :
    state.findSchema { context with aliases := source } name = state.findSchema context name := by
  simp only [findSchema, load, register_aliases, firstLevel_aliases]

variable (same : ∀ kind name, source.target? kind context.settings.user name =
  context.aliases.target? kind context.settings.user name)

include same

theorem findChild_aliases (state : LookupState) (name : String) (caseSensitive : Bool) :
    state.findChild { context with aliases := source } name caseSensitive =
      state.findChild context name caseSensitive := by
  have target : source.namespaceAlias context.settings.user name =
      context.aliases.namespaceAlias context.settings.user name := same .namespaces name
  simp only [findChild, findSchema_aliases, target]

theorem walk_aliases (state : LookupState) (caseSensitive : Bool) (id : NodeId)
    (names : List String) : state.walk { context with aliases := source } caseSensitive id names =
      state.walk context caseSensitive id names := by
  induction names generalizing state id with
  | nil => rfl
  | cons name rest ih =>
    have first : state.findChildOf { context with aliases := source } id name caseSensitive =
        state.findChildOf context id name caseSensitive := by
      simp only [findChildOf, findChild_aliases same]
    simp only [walk, first, ih]

theorem findAliasedTable_aliases (state : LookupState) (name : String) (caseSensitive : Bool) :
    state.findAliasedTable { context with aliases := source } name caseSensitive =
      state.findAliasedTable context name caseSensitive := by
  have target : source.tableAlias context.settings.user name =
      context.aliases.tableAlias context.settings.user name := same .tables name
  simp only [findAliasedTable, walk_aliases same, target]

theorem ask_aliases (state : LookupState) (question : Question) :
    question.ask { context with aliases := source } state = question.ask context state := by
  cases question with
  | child name caseSensitive => simp only [Question.ask, findChild_aliases same]
  | childOf parent name caseSensitive =>
    simp only [Question.ask, findChildOf, findChild_aliases same]
  | path target caseSensitive => simp only [Question.ask, findPath, walk_aliases same]
  | aliasedTable name caseSensitive => simp only [Question.ask, findAliasedTable_aliases same]
  | table name caseSensitive => simp only [Question.ask, findTable, findAliasedTable_aliases same]

end Aliases

end LookupState

namespace AliasMap

/-- Two maps have the same public aliases and the same aliases of a user's own. -/
def AgreeFor (user : String) (map map' : AliasMap) : Prop :=
  ∀ key : AliasKey, (∀ owner, key.owner? = some owner → owner = user) → map key = map' key

variable {user : String} {map map' map'' : AliasMap}

theorem AgreeFor.refl (user : String) (map : AliasMap) : map.AgreeFor user map :=
  fun _ _ => rfl

theorem AgreeFor.symm (agree : map.AgreeFor user map') : map'.AgreeFor user map :=
  fun key seen => (agree key seen).symm

theorem AgreeFor.trans (agree : map.AgreeFor user map') (agree' : map'.AgreeFor user map'') :
    map.AgreeFor user map'' :=
  fun key seen => (agree key seen).trans (agree' key seen)

theorem AgreeFor.seenBy (agree : map.AgreeFor user map') (kind : AliasKind) (name : String) :
    map.seenBy kind user name = map'.seenBy kind user name := by
  have own : map ⟨kind, some user, name⟩ = map' ⟨kind, some user, name⟩ := by
    apply agree
    rintro owner ⟨⟩
    rfl
  have shared : map ⟨kind, none, name⟩ = map' ⟨kind, none, name⟩ := by
    apply agree
    rintro owner ⟨⟩
  rw [AliasMap.seenBy, own, shared, AliasMap.seenBy]

theorem update_agreeFor (map : AliasMap) {key : AliasKey} {owner : String}
    (owned : key.owner? = some owner) (other : owner ≠ user) (value : Option String) :
    AgreeFor user (Function.update map key value) map := by
  intro seen hseen
  rw [Function.update_apply]
  split
  next eq =>
    subst eq
    exact absurd (hseen owner owned) other
  next => rfl

theorem AgreeFor.update (agree : map.AgreeFor user map') (key : AliasKey)
    (value : Option String) :
    AgreeFor user (Function.update map key value) (Function.update map' key value) := by
  intro seen hseen
  rw [Function.update_apply, Function.update_apply, agree seen hseen]

theorem perform_agreeFor (map : AliasMap) {operation : Operation}
    (others : operation.changesOthers user = true) :
    AgreeFor user (map.perform operation) map := by
  cases operation with
  | addAlias kind owner? name target =>
    cases owner? with
    | none => cases others
    | some owner =>
      have other : owner ≠ user := of_decide_eq_true others
      simp only [perform]
      split
      · exact map.update_agreeFor rfl other (some target)
      · exact .refl user map
  | removeAlias kind owner? name =>
    cases owner? with
    | none => cases others
    | some owner =>
      have other : owner ≠ user := of_decide_eq_true others
      exact map.update_agreeFor rfl other none
  | _ => cases others

theorem AgreeFor.own (agree : map.AgreeFor user map') {owner? : Option String}
    (own : ∀ owner, owner? = some owner → decide (owner ≠ user) = false) (kind : AliasKind)
    (name : String) : map ⟨kind, owner?, name⟩ = map' ⟨kind, owner?, name⟩ := by
  apply agree
  intro owner eq
  simpa using own owner eq

theorem AgreeFor.allows (agree : map.AgreeFor user map') {kind : AliasKind} {owner? : Option String}
    {name target : String}
    (own : (Operation.addAlias kind owner? name target).changesOthers user = false) :
    map.allows ⟨kind, owner?, name⟩ target = map'.allows ⟨kind, owner?, name⟩ target := by
  have same : map ⟨kind, owner?, name⟩ = map' ⟨kind, owner?, name⟩ := by
    apply agree.own
    rintro owner rfl
    exact own
  rw [AliasMap.allows, same, AliasMap.allows]

theorem AgreeFor.perform (agree : map.AgreeFor user map') {operation : Operation}
    (own : operation.changesOthers user = false) :
    AgreeFor user (map.perform operation) (map'.perform operation) := by
  cases operation with
  | addAlias kind owner? name target =>
    simp only [AliasMap.perform, agree.allows own]
    split
    · exact agree.update ⟨kind, owner?, name⟩ (some target)
    · exact agree
  | removeAlias kind owner? name => exact agree.update ⟨kind, owner?, name⟩ none
  | _ => exact agree

end AliasMap

namespace Catalog

/-- Whether an operation is no lookup for another user. -/
def AsksFor (user : String) (catalog : Catalog) : Operation → Prop
  | .ask number _ => ∀ session, catalog.sessions[number]? = some session →
      session.settings.user = user
  | _ => True

/-- Whether every lookup of a run is one for the user. -/
def AskedFor (user : String) (catalog : Catalog) : List Operation → Prop
  | [] => True
  | operation :: rest =>
    catalog.AsksFor user operation ∧ AskedFor user (catalog.perform operation).2.2 rest

/-- What comes of the operations of a run, but for changes of aliases that other users own: the
answers, with what is seen of them, and the sessions afterwards. -/
def transcript (user : String) (catalog : Catalog) :
    List Operation → List (Answer × Trace × Array Session)
  | [] => []
  | operation :: rest =>
    let (answer, trace, after) := catalog.perform operation
    if operation.changesOthers user then after.transcript user rest
    else (answer, trace, after.sessions) :: after.transcript user rest

/-- Two catalogs that differ in aliases of other users only. -/
structure AgreeFor (user : String) (first second : Catalog) : Prop where
  rest : second = { first with aliases := second.aliases }
  aliases : first.aliases.toMap.AgreeFor user second.aliases.toMap

variable {user : String} {first second : Catalog}

theorem AgreeFor.refl (user : String) (catalog : Catalog) : AgreeFor user catalog catalog :=
  ⟨rfl, .refl user _⟩

theorem perform_others (catalog : Catalog) {operation : Operation}
    (others : operation.changesOthers user = true) : (catalog.perform operation).2.2 =
      { catalog with aliases := (catalog.perform operation).2.2.aliases } := by
  cases operation with
  | addAlias kind owner? name target =>
    simp only [perform]
    cases catalog.aliases.add kind owner? name target <;> rfl
  | removeAlias kind owner? name => rfl
  | _ => cases others

theorem AgreeFor.perform_right (agree : AgreeFor user first second) {operation : Operation}
    (others : operation.changesOthers user = true) :
    AgreeFor user first (second.perform operation).2.2 := by
  constructor
  · rw [second.perform_others others, agree.rest]
  · rw [(second.perform_toMap operation).1]
    exact agree.aliases.trans (second.aliases.toMap.perform_agreeFor others).symm

theorem AgreeFor.perform_left (agree : AgreeFor user first second) {operation : Operation}
    (others : operation.changesOthers user = true) :
    AgreeFor user (first.perform operation).2.2 second := by
  constructor
  · rw [first.perform_others others, agree.rest]
  · rw [(first.perform_toMap operation).1]
    exact (first.aliases.toMap.perform_agreeFor others).trans agree.aliases

theorem AgreeFor.ask (agree : AgreeFor user first second) {number : Nat}
    (asks : ∀ session, first.sessions[number]? = some session → session.settings.user = user)
    (question : Question) :
    (second.ask number question).1 = (first.ask number question).1 ∧
      (second.ask number question).2.1 = (first.ask number question).2.1 ∧
      (second.ask number question).2.2 =
        { (first.ask number question).2.2 with aliases := second.aliases } := by
  obtain ⟨rest, agree⟩ := agree
  generalize second.aliases = aliases at rest agree
  subst rest
  cases hsession : first.sessions[number]? with
  | none => simp [Catalog.ask, hsession]
  | some session =>
    have same : ∀ kind name, ((first.substitute?.getD aliases).source).target? kind
        (first.context session).settings.user name =
        (first.context session).aliases.target? kind (first.context session).settings.user name := by
      intro kind name
      have acting : (first.context session).settings.user = user := asks session hsession
      rw [acting, Catalog.context]
      cases first.substitute? with
      | some substitute => rfl
      | none =>
        simp only [Option.getD_none, Aliases.source_target?]
        exact (agree.seenBy kind name).symm
    have run : question.ask (({ first with aliases := aliases } : Catalog).context session)
        (({ first with aliases := aliases } : Catalog).state session) =
        question.ask (first.context session) (first.state session) :=
      LookupState.ask_aliases same (first.state session) question
    have hsession' : ({ first with aliases := aliases } : Catalog).sessions[number]? =
        some session := hsession
    rw [ask_eq hsession, ask_eq hsession', run]
    exact ⟨rfl, rfl, rfl⟩

/-- An operation is answered alike in two catalogs, what is seen of it is the same, and it leaves
the same but for aliases. -/
structure Alike (first second : Catalog) (operation : Operation) : Prop where
  answer : (second.perform operation).1 = (first.perform operation).1
  trace : (second.perform operation).2.1 = (first.perform operation).2.1
  after : (second.perform operation).2.2 = { (first.perform operation).2.2 with
    aliases := (second.perform operation).2.2.aliases }

theorem AgreeFor.alike_addAlias (agree : AgreeFor user first second) {kind : AliasKind}
    {owner? : Option String} {name target : String}
    (own : (Operation.addAlias kind owner? name target).changesOthers user = false) :
    Alike first second (.addAlias kind owner? name target) := by
  have answer := (second.perform_addAlias kind owner? name target).1
  rw [← agree.aliases.allows own, ← (first.perform_addAlias kind owner? name target).1] at answer
  refine ⟨answer, ?_, ?_⟩
  · simp only [Catalog.perform]
    cases first.aliases.add kind owner? name target <;>
      cases second.aliases.add kind owner? name target <;> rfl
  · have rest := agree.rest
    simp only [Catalog.perform]
    cases first.aliases.add kind owner? name target <;>
      cases second.aliases.add kind owner? name target <;> rw [rest]

theorem AgreeFor.alike_removeAlias (agree : AgreeFor user first second) {kind : AliasKind}
    {owner? : Option String} {name : String}
    (own : (Operation.removeAlias kind owner? name).changesOthers user = false) :
    Alike first second (.removeAlias kind owner? name) := by
  have answer := second.perform_removeAlias kind owner? name
  have same : first.aliases.toMap ⟨kind, owner?, name⟩ =
      second.aliases.toMap ⟨kind, owner?, name⟩ := by
    apply agree.aliases.own
    rintro owner rfl
    exact own
  rw [← same, ← first.perform_removeAlias kind owner? name] at answer
  refine ⟨answer, rfl, ?_⟩
  simp only [Catalog.perform]
  rw [agree.rest]

theorem AgreeFor.alike_ask (agree : AgreeFor user first second) {number : Nat}
    {question : Question} (asks : first.AsksFor user (.ask number question)) :
    Alike first second (.ask number question) := by
  obtain ⟨answer, trace, after⟩ := agree.ask asks question
  refine ⟨answer, trace, ?_⟩
  simp only [Catalog.perform]
  rw [after]

theorem AgreeFor.alike (agree : AgreeFor user first second) {operation : Operation}
    (own : operation.changesOthers user = false) (asks : first.AsksFor user operation) :
    Alike first second operation := by
  cases operation with
  | ask number question => exact agree.alike_ask asks
  | addAlias kind owner? name target => exact agree.alike_addAlias own
  | removeAlias kind owner? name => exact agree.alike_removeAlias own
  | openSession settings? =>
    rw [agree.rest]
    exact ⟨rfl, rfl, rfl⟩
  | register connector enabled =>
    rw [agree.rest]
    constructor <;> simp only [Catalog.perform] <;>
      cases first.registry.register connector enabled <;> rfl
  | remove name =>
    rw [agree.rest]
    constructor <;> simp only [Catalog.perform] <;> cases first.registry.remove name <;> rfl
  | setEnabled name enabled =>
    rw [agree.rest]
    constructor <;> simp only [Catalog.perform] <;>
      cases first.registry.setEnabled name enabled <;> rfl
  | sessionSetEnabled name enabled =>
    rw [agree.rest]
    constructor <;> simp only [Catalog.perform] <;>
      cases first.registry.setEnabledUnder first.lock? name enabled <;> rfl

/-- An operation that does not change what other users own leaves such catalogs again. -/
theorem AgreeFor.perform (agree : AgreeFor user first second) {operation : Operation}
    (own : operation.changesOthers user = false) (asks : first.AsksFor user operation) :
    AgreeFor user (first.perform operation).2.2 (second.perform operation).2.2 := by
  refine ⟨(agree.alike own asks).after, ?_⟩
  rw [(first.perform_toMap operation).1, (second.perform_toMap operation).1]
  exact agree.aliases.perform own

theorem AgreeFor.run {plain mixed : List Operation} (inserted : Interspersed user plain mixed)
    (agree : AgreeFor user first second) (asked : first.AskedFor user plain) :
    second.transcript user mixed = first.transcript user plain ∧
      AgreeFor user (first.run plain) (second.run mixed) := by
  induction inserted generalizing first second with
  | nil => exact ⟨rfl, agree⟩
  | @inserted operation plain mixed others rest ih =>
    obtain ⟨same, agree'⟩ := ih (agree.perform_right others) asked
    refine ⟨?_, agree'⟩
    simp only [transcript, others, if_true]
    exact same
  | @common operation plain mixed rest ih =>
    obtain ⟨asks, asked⟩ := asked
    cases own : operation.changesOthers user with
    | true =>
      obtain ⟨same, agree'⟩ := ih ((agree.perform_left own).perform_right own) asked
      refine ⟨?_, agree'⟩
      simp only [transcript, own, if_true]
      exact same
    | false =>
      obtain ⟨answer, trace, _⟩ := agree.alike own asks
      have agree' := agree.perform own asks
      have sessions := congrArg Catalog.sessions agree'.rest
      obtain ⟨same, agree''⟩ := ih agree' asked
      refine ⟨?_, agree''⟩
      simp only [transcript, own, Bool.false_eq_true, if_false, answer, trace, same, sessions]

/-- Changes of aliases that other users own are not seen. Put into a run in which all lookups are
for one user, they change no answer, nothing that is seen of it, such as the calls of connectors,
and no tree, and at the end the catalog is the same but for aliases. -/
theorem others_aliases_unseen {start : Catalog} {user : String} {plain mixed : List Operation}
    (inserted : Interspersed user plain mixed) (asked : start.AskedFor user plain) :
    start.transcript user mixed = start.transcript user plain ∧
      start.run mixed = { start.run plain with aliases := (start.run mixed).aliases } := by
  obtain ⟨same, agree⟩ := AgreeFor.run inserted (.refl user start) asked
  exact ⟨same, agree.rest⟩

/-- A lookup of a short name that is nobody's. -/
def shortNameAsked : List Operation :=
  filesAndSession ++ [.ask 0 (.child "fast" false)]

/-- The same, with the name an alias of another user for a while. -/
def shortNameOfEve : List Operation :=
  [.addAlias .namespaces (some "eve") "fast" "dfs.tmp", files, .openSession none,
    .ask 0 (.child "fast" false), .removeAlias .namespaces (some "eve") "fast"]

/-- The name is not found, and no connector is called for it. -/
theorem eves_alias_unseen :
    (empty .immediate).transcript "test" shortNameOfEve =
        (empty .immediate).transcript "test" shortNameAsked ∧
      (((empty .immediate).run filesAndSession).ask 0 (.child "fast" false)).2.1 =
        #[.notice (.resolving "fast" false)] := by
  have inserted : Interspersed "test" shortNameAsked shortNameOfEve :=
    .inserted rfl (.common _ (.common _ (.common _ (.inserted rfl .nil))))
  have opened : ((empty .immediate).run filesAndSession).sessions[0]? =
      some ⟨.bare, .immediate⟩ := rfl
  have asked : (empty .immediate).AskedFor "test" shortNameAsked := by
    refine ⟨trivial, trivial, fun session h => ?_, trivial⟩
    cases Option.some.inj (opened.symm.trans h)
    rfl
  exact ⟨(others_aliases_unseen inserted asked).1, by decide +kernel⟩

end Catalog

end FederatedCatalog
