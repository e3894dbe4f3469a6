import FederatedCatalog.Proofs.Provenance

namespace FederatedCatalog

namespace Connector

theorem failAlways_toNat : failAlways.toNat = UInt32.size - 1 := by
  decide

theorem attempt_of_failAlways (serial : Nat) (name : String) (schema : SchemaDescription)
    (failure : Failure) {call : Nat} (h : call < UInt32.size - 1) :
    (Connector.described serial name schema failAlways failure).attempt call =
      ⟨[], some failure⟩ := by
  rw [← failAlways_toNat] at h
  simp only [described, if_pos h]

end Connector

namespace LookupState

variable {context : LookupContext} {state after : LookupState} {asked? : Option String}

theorem Ending.failed_tree {failure : LoadFailure}
    (ending : Ending context state asked? (some (.load failure)) after) :
    after.tree = state.tree := by
  cases ending with
  | failed notices asked lowered free serves failed =>
    obtain ⟨_, _, _, _, htree⟩ := (state.noted notices).register_error context _ _ failed
    rw [htree, noted_tree]

end LookupState

namespace Catalog

variable {catalog : Catalog} {family : Nat → Connector} {serial fails : Nat} {session : Session}
  {number : Nat} {question : Question}

/-- What a lookup comes to for which a connector is called as often as is allowed and fails each
time in the same way. The tree stays as it was. -/
structure LoadRefused (context : LookupContext) (serial : Nat) (name : String) (failure : Failure)
    (before after : Tree) (answer : Except LookupError Found) (trace : Trace) : Prop where
  refused : ∃ schema, answer = .error (.load (context.loadFailure schema name
    ⟨failure, List.replicate (context.settings.maxAttempts - 1) failure⟩))
  callees : trace.callees = List.replicate context.settings.maxAttempts serial
  kept : after = before

/-- A lookup that calls a connector, and leaves it with no more calls than it fails first, is
refused. -/
theorem ask_refused (failing : (family serial).FailsFirst fails) {failure : Failure}
    (same : ∀ call < fails, ((family serial).attempt call).failure? = some failure)
    (told : catalog.registry.Holds fun connector => connector = family connector.serial)
    (opened : catalog.sessions[number]? = some session) (sound : session.tree.Sound)
    (called : .called serial ∈ (catalog.ask number question).2.1)
    (within : (catalog.ask number question).2.2.calls.of serial ≤ fails) :
    LoadRefused (catalog.context session) serial (family serial).name failure session.tree
      (question.ask (catalog.context session) (catalog.state session)).after.tree
      (question.ask (catalog.context session) (catalog.state session)).answer
      (catalog.ask number question).2.1 := by
  have vain : catalog.calls.of serial + session.settings.maxAttempts ≤ fails := by
    by_contra late
    rw [(ask_failsFirst failing told opened sound called).1, Connector.callsAfter, if_neg late]
      at within
    omega
  obtain ⟨hcallees, refusal, hrefusal⟩ := ask_vain failing told opened sound called vain
  have ending := catalog.ask_ending sound question
  rw [hrefusal] at ending
  constructor
  case callees => exact hcallees
  case kept => exact ending.failed_tree
  case refused =>
    obtain ⟨connector, schema, bearer, failed, serves, _, hcalled, hfailed, rfl, _⟩ :=
      ending.failed_load
    rw [ask_eq opened] at called
    obtain rfl : serial = connector.serial :=
      ((hcalled serial).mp called).resolve_left (catalog.called_not_mem_state session serial)
    rw [← (told.enabled? serves).2] at same ⊢
    have hsame : ∀ i < session.settings.maxAttempts, failed i = failure := by
      intro i hi
      have early := same _ (Nat.lt_of_lt_of_le (Nat.add_lt_add_left hi _) vain)
      exact Option.some.inj ((hfailed i hi).symm.trans early)
    have positive := session.settings.maxAttempts_pos
    have hprevious : ∀ i ∈ List.range (session.settings.maxAttempts - 1), failed i = failure :=
      fun i hi => hsame i (Nat.lt_of_lt_pred (List.mem_range.mp hi))
    rw [← List.map_eq_replicate_iff, List.length_range] at hprevious
    refine ⟨schema, (LookupRun.error?_eq_some.mp hrefusal).trans ?_⟩
    simp only [context, hsame _ (Nat.sub_one_lt_of_lt positive), hprevious]

/-- Nothing that sessions have comes from the calls in which a connector fails. -/
theorem AllSourced.late
    (sourced : catalog.AllSourced fun connector => connector = family connector.serial)
    (failing : (family serial).FailsFirst fails) :
    catalog.Sessions (Tree.Sourced fun connector call => connector = family connector.serial ∧
      call < catalog.calls.of connector.serial ∧ (connector.serial = serial → fails ≤ call)) := by
  intro number session opened
  refine ⟨(sourced opened).1, (sourced opened).2.mono ?_⟩
  rintro connector call ⟨hconnector, hlt⟩ succeeded
  refine ⟨hconnector, hlt, ?_⟩
  intro hserial
  rw [hconnector, hserial] at succeeded
  exact (failing call).mp succeeded

theorem ask_child_called {name : String} {connector : Connector}
    (opened : catalog.sessions[number]? = some session) (caseSensitive : Bool)
    (plain : (catalog.context session).aliases.namespaceAlias session.settings.user name = none)
    (serves : catalog.registry.enabled? name = some connector)
    (free : session.tree.child? Tree.root name = none) :
    .called connector.serial ∈ (catalog.ask number (.child name caseSensitive)).2.1 := by
  have registers : ((catalog.state session).note (.resolving name caseSensitive)).findSchema
      (catalog.context session) name = _ := LookupState.findSchema_registers serves free
  rw [ask_eq opened]
  simp only [Question.ask, LookupRun.read_after,
    LookupState.findChild_of_no_alias caseSensitive plain, registers]
  exact (LookupState.called_mem_register _ _ _ _).mpr (Or.inr rfl)

theorem ask_failed_kept (opened : catalog.sessions[number]? = some session)
    (sound : session.tree.Sound) (manual : session.settings.autoDisable = false)
    {failure : LoadFailure}
    (failed : (question.ask (catalog.context session) (catalog.state session)).answer =
      .error (.load failure)) :
    (catalog.ask number question).2.2.registry = catalog.registry ∧
      (catalog.ask number question).2.2.sessions[number]? = some session := by
  have ending := catalog.ask_ending sound question
  rw [LookupRun.error?_eq_some.mpr failed] at ending
  constructor
  · obtain ⟨_, _, _, _, _, _, _, _, _, hregistry⟩ := ending.failed_load
    rw [ask_eq opened]
    exact hregistry.trans (LookupContext.escalated_eq_self (Or.inl manual) _ _)
  · rw [ask_session opened, ending.failed_tree]
    rfl

theorem ask_twice_cached (failing : (family serial).FailsFirst fails)
    (selfNamed : (family serial).SelfNamed)
    (told : catalog.registry.Holds fun connector => connector = family connector.serial)
    (numbered : (family serial).serial = serial)
    (opened : catalog.sessions[number]? = some session) (sound : session.tree.Sound)
    (manual : session.settings.autoDisable = false) (limited : session.settings.maxAttempts = fails)
    (uncalled : catalog.calls.of serial = 0) {name : String} (caseSensitive : Bool)
    (plain : (catalog.context session).aliases.namespaceAlias session.settings.user name = none)
    (serves : catalog.registry.enabled? name = some (family serial))
    (free : session.tree.child? Tree.root name = none) : ∃ later id,
      ((catalog.ask number (.child name caseSensitive)).2.2.ask number
        (.child name caseSensitive)).2.2.sessions[number]? = some later ∧
      later.tree.child? Tree.root (family serial).name = some id := by
  have positive : 0 < fails := limited ▸ session.settings.maxAttempts_pos
  have once : fails / fails = 1 := Nat.div_self positive
  have called := ask_child_called opened caseSensitive plain serves free
  rw [numbered] at called
  have counted : catalog.calls.of serial = Connector.callsAfterLoads fails fails 0 := by
    simp [uncalled, Connector.callsAfterLoads]
  obtain ⟨⟨failure, failed, _⟩, _⟩ :=
    ask_fails failing told opened sound called limited counted (by rw [once]; exact Nat.one_pos)
  obtain ⟨hregistry, again⟩ := ask_failed_kept opened sound manual failed
  have plain' : ((catalog.ask number (.child name caseSensitive)).2.2.context
      session).aliases.namespaceAlias session.settings.user name = none := by
    rw [ask_eq opened]
    exact plain
  have called' := ask_child_called again caseSensitive plain' (hregistry ▸ serves) free
  rw [numbered] at called'
  have counted' : (catalog.ask number (.child name caseSensitive)).2.2.calls.of serial =
      Connector.callsAfterLoads fails fails 1 := by
    rw [(ask_failsFirst failing told opened sound called).1, limited, counted,
      Connector.callsAfter_callsAfterLoads positive]
  have succeeds := ask_succeeds failing (hregistry ▸ told) again sound called' limited counted'
    selfNamed (Nat.le_of_eq once)
  obtain ⟨id, hid⟩ := succeeds.cached
  exact ⟨_, id, ask_session again _, hid⟩

/-- A connector that was told to fail always. In whatever run, its first calls, as many as there are
numbers of 32 bits but one, fail with what it was told and add nothing; a lookup that makes no other
calls of it ends with that failure and leaves the tree as it was; and nothing that any session has
comes from these calls. But for the root and the compound nodes, each schema was opened by another
call, one that succeeded, of a connector of the name that the schema bears, and each table was added
by such a call. `family` has the connectors by their serial numbers. -/
theorem failing_calls_add_nothing {start : Catalog} (empty : start.registry = .empty)
    (fresh : start.sessions = #[]) {family : Nat → Connector} {operations : List Operation}
    (told : ∀ operation ∈ operations,
      operation.Brings fun connector => connector = family connector.serial)
    {serial : Nat} {name : String} {schema : SchemaDescription} {failure : Failure}
    (described : family serial = .described serial name schema Connector.failAlways failure) :
    (∀ call < UInt32.size - 1, (family serial).attempt call = ⟨[], some failure⟩) ∧
    (∀ ⦃number : Nat⦄ ⦃session : Session⦄,
      (start.run operations).sessions[number]? = some session →
      ∀ ⦃question : Question⦄ ⦃answer : Except LookupError Found⦄ ⦃trace : Trace⦄
        ⦃after : Catalog⦄ ⦃later : Session⦄,
        (start.run operations).ask number question = (.found answer, trace, after) →
        after.sessions[number]? = some later → .called serial ∈ trace →
        after.calls.of serial ≤ UInt32.size - 1 →
        LoadRefused ((start.run operations).context session) serial name failure session.tree
          later.tree answer trace) ∧
    ∀ ⦃number : Nat⦄ ⦃session : Session⦄,
      (start.run operations).sessions[number]? = some session →
      ∀ ⦃id : NodeId⦄ ⦃node : Node⦄, session.tree.node? id = some node →
        (node.kind = .root ∨ (∃ target, node.kind = .compound target) ∨
          ∃ other call, call < (start.run operations).calls.of other ∧
            (other = serial → UInt32.size - 1 ≤ call) ∧
            (family other).Opens call (session.tree.lineage id) node.kind ∧
            ∀ owner, node.kind = .schema owner → owner = (family other).name) ∧
        ∀ table entry, node.tables.get? table = some entry →
          ∃ other call, call < (start.run operations).calls.of other ∧
            (other = serial → UInt32.size - 1 ≤ call) ∧
            (family other).AddsTable call (session.tree.lineage id) table entry := by
  obtain ⟨holds, _⟩ := run_brings empty fresh told
  have sourced := run_sourced empty fresh told
  have fails : ∀ call < UInt32.size - 1, (family serial).attempt call = ⟨[], some failure⟩ := by
    intro call h
    rw [described, Connector.attempt_of_failAlways serial name schema failure h]
  have failing : (family serial).FailsFirst (UInt32.size - 1) := by
    rw [described, ← Connector.failAlways_toNat]
    exact Connector.failsFirst_described serial name schema Connector.failAlways failure
  refine ⟨fails, ?_, ?_⟩
  · intro number session opened question answer trace after later asked left called within
    have hname : (family serial).name = name := by
      rw [described]
      rfl
    have same : ∀ call < UInt32.size - 1, ((family serial).attempt call).failure? = some failure :=
      fun call h => by rw [fails call h]
    have split := (ask_eq opened question).symm.trans asked
    simp only [Prod.mk.injEq, Answer.found.injEq] at split
    obtain ⟨hanswer, htrace, hafter⟩ := split
    have hlater := ask_session opened question
    rw [asked, left] at hlater
    cases Option.some.inj hlater
    have refused := @ask_refused _ family serial _ _ number question failing failure same holds
      opened (sourced opened).1 (by rw [asked]; exact called) (by rw [asked]; exact within)
    rw [hanswer, asked, hname] at refused
    exact refused
  · intro number session opened id node hnode
    obtain ⟨sound, comes⟩ := sourced.late failing opened
    constructor
    · rcases comes.node_opened sound hnode with
        root | compound | ⟨connector, call, ⟨hconnector, made, late⟩, opens⟩
      · exact Or.inl root
      · exact Or.inr (Or.inl compound)
      · refine Or.inr (Or.inr ⟨connector.serial, call, made, late, ?_⟩)
        rw [← hconnector]
        refine ⟨opens, ?_⟩
        intro owner howner
        rw [howner] at opens
        exact opens.owner
    · intro table entry hentry
      obtain ⟨connector, call, ⟨hconnector, made, late⟩, adds⟩ :=
        comes.table_added sound hnode hentry
      refine ⟨connector.serial, call, made, late, ?_⟩
      rw [← hconnector]
      exact adds

/-- A connector of files that fails always, told from others by its serial number. -/
def downFiles : Connector :=
  .described 1 "dfs" .empty Connector.failAlways (.unreachable "dfs")

/-- The connector takes the place of one that a session has loaded, and a new session is opened. -/
def replacedFiles : List Operation :=
  [.register (.described 0 "dfs" .empty 0 (.unreachable "dfs")) true, .openSession none,
    .ask 0 (.child "dfs" false), .remove "dfs", .register downFiles true, .openSession none]

/-- The new session is refused. What the other session has comes from the connector before. -/
theorem replacedFiles_refused :
    downFiles.attempt 0 = ⟨[], some (.unreachable "dfs")⟩ ∧
    (∃ session later : Session, ∃ answer trace after,
      ((empty .immediate).run replacedFiles).ask 1 (.child "dfs" false) =
        (.found answer, trace, after) ∧
      LoadRefused (((empty .immediate).run replacedFiles).context session) 1 "dfs"
        (.unreachable "dfs") session.tree later.tree answer trace) ∧
    ∃ session node, ((empty .immediate).run replacedFiles).sessions[0]? = some session ∧
      session.tree.node? 1 = some node ∧ node.kind = .schema "dfs" ∧
      ∃ other call, call < ((empty .immediate).run replacedFiles).calls.of other ∧
        (other = 1 → UInt32.size - 1 ≤ call) := by
  let family : Nat → Connector := fun serial =>
    if serial = 1 then downFiles else .described 0 "dfs" .empty 0 (.unreachable "dfs")
  have told : ∀ operation ∈ replacedFiles,
      operation.Brings fun connector => connector = family connector.serial := by
    intro operation hm
    simp only [replacedFiles, List.mem_cons, List.not_mem_nil, or_false] at hm
    rcases hm with rfl | rfl | rfl | rfl | rfl | rfl
    · rfl
    · trivial
    · trivial
    · trivial
    · rfl
    · trivial
  obtain ⟨fails, refused, comes⟩ := @failing_calls_add_nothing (empty .immediate) rfl rfl family
    replacedFiles told 1 _ _ _ rfl
  refine ⟨fails 0 (by decide), ?_, ?_⟩
  · have two : (((empty .immediate).run replacedFiles).sessions[1]?).isSome := by decide +kernel
    obtain ⟨session, opened⟩ := Option.isSome_iff_exists.mp two
    have asked := ask_eq opened (.child "dfs" false)
    have left := ask_session opened (.child "dfs" false)
    have called : .called 1 ∈
        (((empty .immediate).run replacedFiles).ask 1 (.child "dfs" false)).2.1 := by
      decide +kernel
    have within : (((empty .immediate).run replacedFiles).ask 1
        (.child "dfs" false)).2.2.calls.of 1 ≤ UInt32.size - 1 := by decide +kernel
    rw [asked] at left called within
    exact ⟨_, _, _, _, _, asked, refused opened asked left called within⟩
  · have there : (((empty .immediate).run replacedFiles).sessions[0]?.bind fun session =>
        session.tree.node? 1).map Node.kind = some (.schema "dfs") := by decide +kernel
    obtain ⟨node, hbind, hkind⟩ := Option.map_eq_some_iff.mp there
    obtain ⟨session, opened, hnode⟩ := Option.bind_eq_some_iff.mp hbind
    refine ⟨session, node, opened, hnode, hkind, ?_⟩
    rcases (comes opened hnode).1 with root | ⟨target, compound⟩ | ⟨other, call, made, late, _⟩
    · rw [hkind] at root
      cases root
    · rw [hkind] at compound
      cases compound
    · exact ⟨other, call, made, late⟩

def patient : Settings :=
  { Settings.immediate with retryAttempts := 4294967295 }

def downAndSession : List Operation :=
  [.register downFiles true, .openSession none]

/-- The number of failures runs out: the call after as many as there are numbers of 32 bits but one
registers. A session that makes as many attempts as are ever made has the connector's schema after
the second lookup. -/
theorem downFiles_cached :
    downFiles.attempt (UInt32.size - 1) = ⟨[.schema "dfs" none []], none⟩ ∧
    ∃ session id, ((empty patient).run (downAndSession ++ [.ask 0 (.child "dfs" false),
        .ask 0 (.child "dfs" false)])).sessions[0]? = some session ∧
      session.tree.child? Tree.root "dfs" = some id := by
  have told : ∀ operation ∈ downAndSession,
      operation.Brings fun connector => connector = downFiles := by
    intro operation hm
    simp only [downAndSession, List.mem_cons, List.not_mem_nil, or_false] at hm
    rcases hm with rfl | rfl
    · rfl
    · trivial
  have holds := (@run_brings _ (empty patient) rfl rfl _ told).1
  have opened : ((empty patient).run downAndSession).sessions[0]? = some ⟨.bare, patient⟩ := rfl
  have failing : downFiles.FailsFirst (UInt32.size - 1) := by
    rw [← Connector.failAlways_toNat]
    exact Connector.failsFirst_described 1 "dfs" .empty Connector.failAlways (.unreachable "dfs")
  have found : (((empty patient).run downAndSession).registry.enabled? "dfs").isSome := by
    decide +kernel
  obtain ⟨connector, serves⟩ := Option.isSome_iff_exists.mp found
  rw [(holds.enabled? serves).2] at serves
  constructor
  · rw [← Connector.failAlways_toNat]
    simp only [downFiles, Connector.described, if_neg (Nat.lt_irrefl _)]
    rfl
  · rw [run_append]
    exact @ask_twice_cached ((empty patient).run downAndSession) (fun _ => downFiles) 1 _ _ 0
      failing (Connector.Described.selfNamed ⟨_, _, _, _, _, rfl⟩) holds rfl opened
      Tree.sound_bare rfl (by decide) rfl "dfs" false (by decide +kernel) serves
      (by decide +kernel)

end Catalog

end FederatedCatalog
