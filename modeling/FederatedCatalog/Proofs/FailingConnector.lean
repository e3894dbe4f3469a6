import FederatedCatalog.Proofs.BoundedWork
import FederatedCatalog.Proofs.RegisteredOnce

namespace FederatedCatalog

namespace Connector

/-- That many calls fail first, and no others. -/
def FailsFirst (connector : Connector) (fails : Nat) : Prop :=
  ∀ call, (connector.attempt call).failure? = none ↔ fails ≤ call

theorem failsFirst_described (serial : Nat) (name : String) (schema : SchemaDescription)
    (failTimes : UInt32) (failure : Failure) :
    (Connector.described serial name schema failTimes failure).FailsFirst failTimes.toNat := by
  intro call
  simp only [described]
  split
  next early => simp [early]
  next late => simp [Nat.le_of_not_lt late]

/-- How often a connector has been called after one more registration, of at most `limit` calls. -/
def callsAfter (fails limit calls : Nat) : Nat :=
  if calls + limit ≤ fails then calls + limit else max calls fails + 1

/-- How often a connector has been called after so many registrations. -/
def callsAfterLoads (fails limit loads : Nat) : Nat :=
  if loads ≤ fails / limit then loads * limit else fails + (loads - fails / limit)

section Counting

variable {fails limit loads : Nat}

theorem callsAfterLoads_early (h : loads < fails / limit) :
    callsAfterLoads fails limit loads + limit ≤ fails := by
  have hmul : (loads + 1) * limit ≤ fails / limit * limit := Nat.mul_le_mul_right limit h
  rw [callsAfterLoads, if_pos (Nat.le_of_lt h)]
  calc loads * limit + limit = (loads + 1) * limit := (Nat.succ_mul loads limit).symm
    _ ≤ fails / limit * limit := hmul
    _ ≤ fails := Nat.div_mul_le_self fails limit

theorem callsAfterLoads_late (positive : 0 < limit) (h : fails / limit ≤ loads) :
    fails < callsAfterLoads fails limit loads + limit := by
  unfold callsAfterLoads
  split
  next hle =>
    rw [Nat.le_antisymm hle h]
    calc fails < limit * (fails / limit + 1) := Nat.lt_mul_div_succ fails positive
      _ = fails / limit * limit + limit := by rw [Nat.mul_comm, Nat.succ_mul]
  next => omega

theorem callsAfter_callsAfterLoads (positive : 0 < limit) (loads : Nat) :
    callsAfter fails limit (callsAfterLoads fails limit loads) =
      callsAfterLoads fails limit (loads + 1) := by
  have hdiv := Nat.div_mul_le_self fails limit
  by_cases h : loads < fails / limit
  · rw [callsAfter, if_pos (callsAfterLoads_early h), callsAfterLoads, callsAfterLoads,
      if_pos (Nat.le_of_lt h), if_pos (Nat.succ_le_of_lt h), Nat.succ_mul]
  · have hlate := callsAfterLoads_late positive (Nat.le_of_not_lt h)
    have hnext : ¬loads + 1 ≤ fails / limit := by omega
    rw [callsAfter, if_neg (Nat.not_le.mpr hlate), callsAfterLoads, callsAfterLoads, if_neg hnext]
    split
    next hle =>
      obtain rfl : loads = fails / limit := Nat.le_antisymm hle (Nat.le_of_not_lt h)
      omega
    next => omega

theorem callsAfterLoads_succ (positive : 0 < limit) (loads : Nat) :
    callsAfterLoads fails limit (loads + 1) = callsAfterLoads fails limit loads +
      if loads < fails / limit then limit
      else if loads = fails / limit then fails % limit + 1 else 1 := by
  have hdiv := Nat.div_add_mod' fails limit
  rw [← callsAfter_callsAfterLoads positive]
  split
  next h => rw [callsAfter, if_pos (callsAfterLoads_early h)]
  next h =>
    have hlate := callsAfterLoads_late positive (Nat.le_of_not_lt h)
    rw [callsAfter, if_neg (Nat.not_le.mpr hlate), callsAfterLoads]
    by_cases eq : loads = fails / limit
    · rw [if_pos (Nat.le_of_eq eq), if_pos eq, eq]
      omega
    · rw [if_neg (by omega), if_neg eq]
      omega

end Counting

end Connector

namespace LookupState

variable {context : LookupContext} {state after : LookupState}

/-- A registration of a connector that has failures left: all calls fail, or the failures are used
up and the next call succeeds. -/
theorem register_failsFirst (state : LookupState) (context : LookupContext) (schema : String)
    {connector : Connector} {fails : Nat} (failing : connector.FailsFirst fails) :
    (state.register context schema connector).after.calls.of connector.serial =
      Connector.callsAfter fails context.settings.maxAttempts
        (state.calls.of connector.serial) ∧
    (state.calls.of connector.serial + context.settings.maxAttempts ≤ fails →
      (state.register context schema connector).answer ≠ .ok ()) ∧
    (fails < state.calls.of connector.serial + context.settings.maxAttempts →
      (state.register context schema connector).answer = .ok ()) := by
  have positive := context.settings.maxAttempts_pos
  rcases connector.success_or_failures (state.calls.of connector.serial)
    context.settings.maxAttempts with ⟨count, hcount, succeeded, failed, hall⟩ | ⟨failed, hall⟩
  · have hlast := (failing _).mp succeeded
    have hfirst : ∀ i < count, state.calls.of connector.serial + i < fails := by
      intro i hi
      rw [← Nat.not_le, ← failing, hall i hi]
      exact Option.some_ne_none _
    have hprevious := hfirst (count - 1)
    have hlate : ¬state.calls.of connector.serial + context.settings.maxAttempts ≤ fails := by
      omega
    simp only [register, Connector.retry_of_success hcount hall succeeded,
      CallCounts.of_set_self, Connector.callsAfter, if_neg hlate]
    refine ⟨by omega, fun early => absurd early hlate, fun _ => trivial⟩
  · have hlast : state.calls.of connector.serial + (context.settings.maxAttempts - 1) < fails := by
      rw [← Nat.not_le, ← failing, hall _ (by omega)]
      exact Option.some_ne_none _
    have early : state.calls.of connector.serial + context.settings.maxAttempts ≤ fails := by omega
    simp only [register, Connector.retry_of_failures hall, giveUp_calls, giveUp_answer,
      CallCounts.of_set_self, Connector.callsAfter, if_pos early]
    refine ⟨trivial, fun _ => by simp, fun late => by omega⟩

theorem serial_of_called {notices : List Notice} {schema : String} {connector : Connector}
    {serial : Nat} (uncalled : .called serial ∉ state.trace)
    (called : .called serial ∈
      ((state.noted notices).register context schema connector).after.trace) :
    connector.serial = serial := by
  rw [called_mem_register, called_mem_noted] at called
  exact (called.resolve_left uncalled).symm

theorem Prepared.of_called {asked? : Option String} {name : String} {mid : LookupState}
    (prepared : Prepared context state asked? name mid) {serial : Nat}
    (uncalled : .called serial ∉ state.trace) (called : .called serial ∈ mid.trace) :
    ∃ notices schema connector, connector.serial = serial ∧
      state.registry.enabled? name = some connector ∧
      mid = ((state.noted notices).register context schema connector).after ∧
      ((state.noted notices).register context schema connector).answer = .ok () := by
  cases prepared with
  | noted notices => exact absurd ((state.called_mem_noted notices).mp called) uncalled
  | @registered schema connector notices _ _ _ serves succeeded =>
    exact ⟨notices, schema, connector, serial_of_called uncalled called, serves, rfl, succeeded⟩

theorem Ending.of_called {asked? : Option String} {error? : Option LookupError}
    (ending : Ending context state asked? error? after) {serial : Nat}
    (uncalled : .called serial ∉ state.trace) (called : .called serial ∈ after.trace) :
    ∃ notices schema name connector, connector.serial = serial ∧
      state.registry.enabled? name = some connector ∧
      after.calls = ((state.noted notices).register context schema connector).after.calls ∧
      (((state.noted notices).register context schema connector).answer = .ok () ↔
        ∀ failure, error? ≠ some (.load failure)) := by
  cases ending with
  | done prepared quiet =>
    obtain ⟨notices, schema, connector, hserial, serves, rfl, succeeded⟩ :=
      prepared.of_called uncalled ((quiet.called serial).mp called)
    exact ⟨notices, schema, _, connector, hserial, serves, quiet.calls, by simp [succeeded]⟩
  | unexpected prepared =>
    obtain ⟨notices, schema, connector, hserial, serves, rfl, succeeded⟩ :=
      prepared.of_called uncalled called
    exact ⟨notices, schema, _, connector, hserial, serves, rfl, by simp [succeeded]⟩
  | @failed schema name connector failure notices _ _ _ serves failed =>
    exact ⟨notices, schema, name, connector, serial_of_called uncalled called, serves, rfl,
      by simp [failed]⟩
  | invalidAlias notices => exact absurd ((state.called_mem_noted notices).mp called) uncalled

end LookupState

namespace Catalog

variable {catalog : Catalog} {family : Nat → Connector} {serial fails : Nat}

/-- How many of the operations make a session call the connector of that serial number. -/
def loads (catalog : Catalog) (serial : Nat) : List Operation → Nat
  | [] => 0
  | operation :: rest =>
    (if serial ∈ (catalog.perform operation).2.1.callees then 1 else 0) +
      (catalog.perform operation).2.2.loads serial rest

theorem perform_calls_cases (catalog : Catalog) (operation : Operation) :
    (∃ number question session, operation = .ask number question ∧
      catalog.sessions[number]? = some session) ∨
    (catalog.perform operation).2.1 = #[] ∧
      (catalog.perform operation).2.2.calls = catalog.calls := by
  cases operation with
  | ask number question =>
    cases hsession : catalog.sessions[number]? with
    | none => exact Or.inr (by simp [perform, ask, hsession])
    | some session => exact Or.inl ⟨number, question, session, rfl, hsession⟩
  | openSession settings? => exact Or.inr ⟨rfl, rfl⟩
  | register connector enabled =>
    refine Or.inr ?_
    cases h : catalog.registry.register connector enabled <;> simp [perform, withRegistry, h]
  | remove name =>
    refine Or.inr ?_
    cases h : catalog.registry.remove name <;> simp [perform, h]
  | setEnabled name enabled =>
    refine Or.inr ?_
    cases h : catalog.registry.setEnabled name enabled <;> simp [perform, withRegistry, h]
  | sessionSetEnabled name enabled =>
    refine Or.inr ?_
    cases h : catalog.registry.setEnabledUnder catalog.lock? name enabled <;>
      simp [perform, withRegistry, h]
  | addAlias kind owner? name target =>
    refine Or.inr ?_
    cases h : catalog.aliases.add kind owner? name target <;> simp [perform, h]
  | removeAlias kind owner? name => exact Or.inr ⟨rfl, rfl⟩

theorem ask_work {session : Session} {number : Nat}
    (opened : catalog.sessions[number]? = some session) (sound : session.tree.Sound)
    (question : Question) :
    (catalog.ask number question).2.1.Shows [] [] [] ∧
      (catalog.ask number question).2.2.calls = catalog.calls ∨
    ∃ name connector waits requests, catalog.registry.enabled? name = some connector ∧
      (catalog.state session).Registers (catalog.context session) connector waits requests
        (catalog.ask number question).2.1
        (question.ask (catalog.context session) (catalog.state session)).after := by
  obtain ⟨work, hafter, hwork⟩ := (catalog.ask_course sound question).work
  have htrace := hafter.trans Array.empty_append
  rw [ask_eq opened]
  simp only [htrace]
  exact hwork.imp (fun ⟨shows, calls, _⟩ => ⟨shows, calls⟩) id

theorem ask_uncalled {session : Session} {number : Nat} {question : Question}
    (opened : catalog.sessions[number]? = some session) (sound : session.tree.Sound)
    (uncalled : .called serial ∉ (catalog.ask number question).2.1) :
    (catalog.ask number question).2.2.calls.of serial = catalog.calls.of serial := by
  rcases ask_work opened sound question with
    ⟨_, hcalls⟩ | ⟨_, connector, waits, requests, _, registers⟩
  · rw [hcalls]
  · have hne : serial ≠ connector.serial := by
      rintro rfl
      apply uncalled
      rw [← Trace.mem_callees, registers.shows.callees]
      simp
    rw [ask_eq opened]
    exact (congrArg (CallCounts.of · serial) registers.counted).trans
      (CallCounts.of_set_of_ne _ _ hne)

theorem perform_uncalled {I : Tree → Prop} (sessions : catalog.Sessions I) {operation : Operation}
    (uncalled : .called serial ∉ (catalog.perform operation).2.1) :
    (catalog.perform operation).2.2.calls.of serial = catalog.calls.of serial := by
  rcases catalog.perform_calls_cases operation with
    ⟨number, question, session, rfl, opened⟩ | ⟨_, hcalls⟩
  · exact ask_uncalled opened (sessions opened).1 uncalled
  · rw [hcalls]

theorem ask_callees {session : Session} {number calls : Nat} {question : Question}
    (opened : catalog.sessions[number]? = some session) (sound : session.tree.Sound)
    (called : .called serial ∈ (catalog.ask number question).2.1)
    (counted : (catalog.ask number question).2.2.calls.of serial =
      catalog.calls.of serial + calls) :
    (catalog.ask number question).2.1.callees = List.replicate calls serial := by
  rcases ask_work opened sound question with
    ⟨shows, _⟩ | ⟨_, connector, waits, requests, _, registers⟩
  · rw [← Trace.mem_callees, shows.callees] at called
    cases called
  · rw [← Trace.mem_callees, registers.shows.callees] at called
    obtain rfl := List.eq_of_mem_replicate called
    have hafter : (catalog.ask number question).2.2.calls.of connector.serial =
        catalog.calls.of connector.serial + (waits + 1) := by
      rw [ask_eq opened]
      exact (congrArg (CallCounts.of · connector.serial) registers.counted).trans
        (CallCounts.of_set_self _ _ _)
    rw [registers.shows.callees, Nat.add_left_cancel (hafter.symm.trans counted)]

theorem ask_failed
    (told : catalog.registry.Holds fun connector => connector = family connector.serial)
    {session : Session} {number : Nat} {question : Question}
    (opened : catalog.sessions[number]? = some session) (sound : session.tree.Sound)
    (called : .called serial ∈ (catalog.ask number question).2.1) {failure : LoadFailure}
    (failed : (question.ask (catalog.context session) (catalog.state session)).error? =
      some (.load failure)) :
    failure.attempts = session.settings.maxAttempts ∧ failure.connector = (family serial).name ∧
    (session.settings.autoDisable = true → catalog.lock? = none →
      catalog.registry.Disables (catalog.ask number question).2.2.registry (family serial)) := by
  have ending := catalog.ask_ending sound question
  rw [failed] at ending
  obtain ⟨connector, schema, bearer, _, serves, _, hcalled, _, rfl, hregistry⟩ :=
    ending.failed_load
  rw [ask_eq opened] at called ⊢
  obtain rfl : serial = connector.serial :=
    ((hcalled serial).mp called).resolve_left (catalog.called_not_mem_state session serial)
  rw [← (told.enabled? serves).2]
  refine ⟨?_, rfl, ?_⟩
  · simp [LoadFailure.attempts, LookupContext.loadFailure, context,
      Nat.sub_add_cancel session.settings.maxAttempts_pos]
  · intro auto unlocked
    have disabled : (catalog.resume number
        (question.ask (catalog.context session) (catalog.state session)).after).registry =
        catalog.registry.disabledUnder none connector.name :=
      hregistry.trans (LookupContext.escalated_of_unlocked auto unlocked _ _)
    rw [disabled]
    exact told.disables serves

section Failing

variable (failing : (family serial).FailsFirst fails)

include failing

/-- A lookup that calls the connector makes all calls that are allowed and fails, or makes calls
until the failures are used up. -/
theorem ask_failsFirst
    (told : catalog.registry.Holds fun connector => connector = family connector.serial)
    {session : Session} {number : Nat} {question : Question}
    (opened : catalog.sessions[number]? = some session) (sound : session.tree.Sound)
    (called : .called serial ∈ (catalog.ask number question).2.1) :
    (catalog.ask number question).2.2.calls.of serial =
      Connector.callsAfter fails session.settings.maxAttempts (catalog.calls.of serial) ∧
    (fails < catalog.calls.of serial + session.settings.maxAttempts ↔ ∀ failure,
      (question.ask (catalog.context session) (catalog.state session)).error? ≠
        some (.load failure)) := by
  have ending := catalog.ask_ending sound question
  rw [ask_eq opened] at called ⊢
  obtain ⟨notices, schema, name, connector, rfl, serves, hcalls, hanswer⟩ :=
    ending.of_called (catalog.called_not_mem_state session _) called
  rw [← (told.enabled? serves).2] at failing
  obtain ⟨hcounted, hearly, hlate⟩ := ((catalog.state session).noted notices).register_failsFirst
    (catalog.context session) schema failing
  simp only [LookupState.noted_calls] at hcounted hearly hlate
  refine ⟨(congrArg (CallCounts.of · connector.serial) hcalls).trans hcounted, ?_⟩
  rw [← hanswer]
  constructor
  · exact hlate
  · intro succeeded
    exact Nat.not_le.mp fun early => hearly early succeeded

theorem ask_vain
    (told : catalog.registry.Holds fun connector => connector = family connector.serial)
    {session : Session} {number : Nat} {question : Question}
    (opened : catalog.sessions[number]? = some session) (sound : session.tree.Sound)
    (called : .called serial ∈ (catalog.ask number question).2.1)
    (vain : catalog.calls.of serial + session.settings.maxAttempts ≤ fails) :
    (catalog.ask number question).2.1.callees =
      List.replicate session.settings.maxAttempts serial ∧
    ∃ failure, (question.ask (catalog.context session) (catalog.state session)).error? =
      some (.load failure) := by
  obtain ⟨hcalls, hanswer⟩ := ask_failsFirst failing told opened sound called
  rw [Connector.callsAfter, if_pos vain] at hcalls
  refine ⟨ask_callees opened sound called hcalls, ?_⟩
  by_contra h
  exact absurd (hanswer.mpr (not_exists.mp h)) (Nat.not_lt.mpr vain)

/-- How often the connector has been called is known from the number of lookups that called it. -/
theorem run_calls
    (told : catalog.registry.Holds fun connector => connector = family connector.serial)
    (sessions : catalog.Sessions fun _ => True) {operations : List Operation}
    (brings : ∀ operation ∈ operations,
      operation.Brings fun connector => connector = family connector.serial)
    {limit : Nat} (positive : 0 < limit)
    (common : ∀ ⦃number : Nat⦄ ⦃session : Session⦄,
      (catalog.run operations).sessions[number]? = some session →
        session.settings.maxAttempts = limit)
    {loads : Nat}
    (counted : catalog.calls.of serial = Connector.callsAfterLoads fails limit loads) :
    (catalog.run operations).calls.of serial =
      Connector.callsAfterLoads fails limit (loads + catalog.loads serial operations) := by
  induction operations generalizing catalog loads with
  | nil => exact counted
  | cons operation rest ih =>
    have told' : (catalog.perform operation).2.2.registry.Holds
        fun connector => connector = family connector.serial :=
      perform_registry Registry.lasting_holds told sessions (brings operation (by simp))
    have sessions' := sessions.perform_sound operation
    have brings' := fun other hm => brings other (List.mem_cons_of_mem operation hm)
    rw [run_cons, Catalog.loads, ← Nat.add_assoc]
    apply ih told' sessions' brings' common
    by_cases called : .called serial ∈ (catalog.perform operation).2.1
    · rw [if_pos (Trace.mem_callees.mpr called), ← Connector.callsAfter_callsAfterLoads positive]
      rcases catalog.perform_calls_cases operation with
        ⟨number, question, session, rfl, opened⟩ | ⟨silent, _⟩
      · -- The session has the same settings at the end of the run.
        obtain ⟨later, hlater, hsettings, _⟩ :=
          run_session (.ask number question :: rest) opened (sessions opened).1
        have hlimit := common hlater
        rw [hsettings] at hlimit
        have hafter := (ask_failsFirst failing told opened (sessions opened).1 called).1
        rw [hlimit, counted] at hafter
        exact hafter
      · rw [silent] at called
        simp at called
    · rw [if_neg (mt Trace.mem_callees.mp called), Nat.add_zero,
        perform_uncalled sessions called, counted]

/-- What a lookup comes to that calls the connector as often as is allowed, and in vain. -/
structure LoadFails (serial : Nat) (name : String) (limit : Nat)
    (answer : Except LookupError Found) (trace : Trace) : Prop where
  failed : ∃ failure, answer = .error (.load failure) ∧ failure.attempts = limit ∧
    failure.connector = name
  callees : trace.callees = List.replicate limit serial

/-- What a lookup of a session comes to that has the connector register in so many calls. -/
structure LoadSucceeds (serial : Nat) (name : String) (calls : Nat) (before after : Tree)
    (answer : Except LookupError Found) (trace : Trace) : Prop where
  answered : ∀ failure, answer ≠ .error (.load failure)
  callees : trace.callees = List.replicate calls serial
  new : before.child? Tree.root name = none
  cached : ∃ id, after.child? Tree.root name = some id

section Next

variable
  (told : catalog.registry.Holds fun connector => connector = family connector.serial)
  {session : Session} {number : Nat} {question : Question}
  (opened : catalog.sessions[number]? = some session) (sound : session.tree.Sound)
  (called : .called serial ∈ (catalog.ask number question).2.1) {limit loads : Nat}
  (allowed : session.settings.maxAttempts = limit)
  (counted : catalog.calls.of serial = Connector.callsAfterLoads fails limit loads)

include told opened sound called allowed counted

theorem ask_calls : (catalog.ask number question).2.2.calls.of serial =
    catalog.calls.of serial + if loads < fails / limit then limit
      else if loads = fails / limit then fails % limit + 1 else 1 := by
  have positive : 0 < limit := by
    rw [← allowed]
    exact session.settings.maxAttempts_pos
  rw [(ask_failsFirst failing told opened sound called).1, allowed, counted,
    Connector.callsAfter_callsAfterLoads positive, Connector.callsAfterLoads_succ positive]

theorem ask_fails (early : loads < fails / limit) :
    LoadFails serial (family serial).name limit
      (question.ask (catalog.context session) (catalog.state session)).answer
      (catalog.ask number question).2.1 := by
  have vain := Connector.callsAfterLoads_early early
  rw [← counted, ← allowed] at vain
  obtain ⟨hcallees, failure, hfailure⟩ := ask_vain failing told opened sound called vain
  obtain ⟨hattempts, hconnector, _⟩ := ask_failed told opened sound called hfailure
  rw [allowed] at hcallees hattempts
  exact ⟨⟨failure, LookupRun.error?_eq_some.mp hfailure, hattempts, hconnector⟩, hcallees⟩

theorem ask_succeeds (selfNamed : (family serial).SelfNamed) (late : fails / limit ≤ loads) :
    LoadSucceeds serial (family serial).name
      (if loads = fails / limit then fails % limit + 1 else 1) session.tree
      (question.ask (catalog.context session) (catalog.state session)).after.tree
      (question.ask (catalog.context session) (catalog.state session)).answer
      (catalog.ask number question).2.1 := by
  have positive : 0 < limit := by
    rw [← allowed]
    exact session.settings.maxAttempts_pos
  have hcalls := ask_calls failing told opened sound called allowed counted
  rw [if_neg (Nat.not_lt.mpr late)] at hcalls
  have henough := Connector.callsAfterLoads_late positive late
  obtain ⟨hlast, hanswer⟩ := ask_failsFirst failing told opened sound called
  rw [allowed, counted] at hanswer hlast
  constructor
  case answered =>
    intro failure h
    exact hanswer.mp henough failure (LookupRun.error?_eq_some.mpr h)
  case callees => exact ask_callees opened sound called hcalls
  case new => exact free_of_called told opened sound called
  case cached =>
    rw [Connector.callsAfter, if_neg (Nat.not_le.mpr henough)] at hlast
    have succeeded := (failing _).mpr
      (Nat.le_max_right (Connector.callsAfterLoads fails limit loads) fails)
    obtain ⟨later, id, hlater, _, hid⟩ := cached_of_own told opened sound called hlast succeeded
      (selfNamed _ succeeded)
    rw [ask_session opened] at hlater
    cases Option.some.inj hlater
    exact ⟨id, hid⟩

end Next

end Failing

theorem run_idle_calls (sessions : catalog.Sessions fun _ => True)
    (idle : catalog.registry.Idle serial) {operations : List Operation}
    (withheld : catalog.Withholds serial operations) :
    (catalog.run operations).calls.of serial = catalog.calls.of serial := by
  induction operations generalizing catalog with
  | nil => rfl
  | cons operation rest ih =>
    obtain ⟨untouched, withheld⟩ := withheld
    have uncalled : .called serial ∉ (catalog.perform operation).2.1 := by
      rcases catalog.perform_calls_cases operation with
        ⟨number, question, session, rfl, _⟩ | ⟨silent, _⟩
      · exact (ask_idle sessions idle number question).2
      · simp [silent]
    rw [run_cons, ← perform_uncalled sessions uncalled]
    exact ih (sessions.perform_sound operation) (perform_idle sessions idle untouched) withheld

theorem ask_then_disabled (failing : (family serial).FailsFirst fails)
    (numbered : (family serial).serial = serial)
    (told : catalog.registry.Holds fun connector => connector = family connector.serial)
    {session : Session} {number : Nat} {question : Question}
    (opened : catalog.sessions[number]? = some session) (sessions : catalog.Sessions fun _ => True)
    (called : .called serial ∈ (catalog.ask number question).2.1) {limit : Nat}
    (allowed : session.settings.maxAttempts = limit)
    (uncalled : catalog.calls.of serial = Connector.callsAfterLoads fails limit 0)
    (enough : limit ≤ fails) (auto : session.settings.autoDisable = true)
    (unlocked : catalog.lock? = none) {others : List Operation}
    (withheld : (catalog.ask number question).2.2.Withholds serial others) :
    ((catalog.ask number question).2.2.run others).calls.of serial = limit ∧
      ∀ number' question',
        .called serial ∉
          (((catalog.ask number question).2.2.run others).ask number' question').2.1 := by
  have sound := (sessions opened).1
  have early : 0 < fails / limit := by
    apply Nat.div_pos enough
    rw [← allowed]
    exact session.settings.maxAttempts_pos
  obtain ⟨⟨failure, hfailure, _⟩, _⟩ :=
    ask_fails failing told opened sound called allowed uncalled early
  have disables := (ask_failed told opened sound called
    (LookupRun.error?_eq_some.mpr hfailure)).2.2 auto unlocked
  have sessions' : (catalog.ask number question).2.2.Sessions fun _ => True :=
    sessions.perform_sound (.ask number question)
  have idle := disables.idle told
  rw [numbered] at idle
  refine ⟨?_, run_idle sessions' idle withheld⟩
  rw [run_idle_calls sessions' idle withheld,
    ask_calls failing told opened sound called allowed uncalled, if_pos early, uncalled]
  simp [Connector.callsAfterLoads]

/-- A connector fails in its first calls and then registers, and all sessions make as many attempts
before they give up. Then it is known from the number of lookups that called it what comes of the
next one: all attempts fail, or the failures are used up and it registers, or it registers in one
call. If it is disabled after the first one it is not called any more. `family` has the connectors
by their serial numbers. -/
theorem failing_connector_loads {start : Catalog} (empty : start.registry = .empty)
    (fresh : start.sessions = #[]) {family : Nat → Connector} {serial : Nat}
    (uncounted : start.calls.of serial = 0) {operations : List Operation}
    (told : ∀ operation ∈ operations,
      operation.Brings fun connector => connector = family connector.serial)
    {name : String} {schema : SchemaDescription} {failTimes : UInt32} {failure : Failure}
    (described : family serial = .described serial name schema failTimes failure) {limit : Nat}
    (common : ∀ ⦃number : Nat⦄ ⦃session : Session⦄,
      (start.run operations).sessions[number]? = some session →
        session.settings.maxAttempts = limit)
    {number : Nat} {session later : Session}
    (opened : (start.run operations).sessions[number]? = some session) {question : Question}
    {answer : Except LookupError Found} {trace : Trace} {after : Catalog}
    (asked : (start.run operations).ask number question = (.found answer, trace, after))
    (left : after.sessions[number]? = some later) (called : .called serial ∈ trace) :
    (start.loads serial operations < failTimes.toNat / limit →
      LoadFails serial name limit answer trace) ∧
    (start.loads serial operations = failTimes.toNat / limit →
      LoadSucceeds serial name (failTimes.toNat % limit + 1) session.tree later.tree answer
        trace) ∧
    (failTimes.toNat / limit < start.loads serial operations →
      LoadSucceeds serial name 1 session.tree later.tree answer trace) ∧
    (session.settings.autoDisable = true → (start.run operations).lock? = none →
      start.loads serial operations = 0 → limit ≤ failTimes.toNat →
      ∀ others : List Operation, after.Withholds serial others →
        (after.run others).calls.of serial = limit ∧
        ∀ number question,
          .called serial ∉ ((after.run others).ask number question).2.1) := by
  obtain ⟨holds, sessions⟩ := run_brings empty fresh told
  have failing : (family serial).FailsFirst failTimes.toNat := by
    rw [described]
    exact Connector.failsFirst_described serial name schema failTimes failure
  have selfNamed : (family serial).SelfNamed := by
    apply Connector.Described.selfNamed
    exact ⟨_, _, _, _, _, described⟩
  have sound := (sessions opened).1
  have allowed := common opened
  have positive : 0 < limit := allowed ▸ session.settings.maxAttempts_pos
  have counted : (start.run operations).calls.of serial =
      Connector.callsAfterLoads failTimes.toNat limit (start.loads serial operations) := by
    have told' : start.registry.Holds fun connector => connector = family connector.serial := by
      rw [empty]
      exact Registry.holds_empty
    have none : start.calls.of serial = Connector.callsAfterLoads failTimes.toNat limit 0 := by
      simp [uncounted, Connector.callsAfterLoads]
    rw [run_calls failing told' (sessions_of_fresh fresh _) told positive common none, Nat.zero_add]
  have hname : (family serial).name = name := by
    rw [described]
    rfl
  have split := (ask_eq opened question).symm.trans asked
  simp only [Prod.mk.injEq, Answer.found.injEq] at split
  obtain ⟨hanswer, htrace, hafter⟩ := split
  have asking : .called serial ∈ ((start.run operations).ask number question).2.1 := by
    rw [asked]
    exact called
  have fails := ask_fails failing holds opened sound asking allowed counted
  have succeeds := ask_succeeds failing holds opened sound asking allowed counted selfNamed
  have hlater := ask_session opened question
  rw [asked, left] at hlater
  cases Option.some.inj hlater
  rw [hanswer, asked, hname] at fails succeeds
  refine ⟨fails, ?_, ?_, ?_⟩
  · intro last
    have := succeeds (Nat.le_of_eq last.symm)
    rw [if_pos last] at this
    exact this
  · intro later
    have := succeeds (Nat.le_of_lt later)
    rw [if_neg (Nat.ne_of_gt later)] at this
    exact this
  · intro auto unlocked first enough others withheld
    have numbered : (family serial).serial = serial := by
      rw [described]
      rfl
    rw [first] at counted
    have withheld' : ((start.run operations).ask number question).2.2.Withholds serial others := by
      rw [asked]
      exact withheld
    have disabled := ask_then_disabled failing numbered holds opened sessions asking allowed counted
      enough auto unlocked withheld'
    rwa [asked] at disabled

def slowFiles : Connector :=
  .described 0 "DFS" ⟨[("tmp", .empty)], [], none⟩ 3 (.unreachable "DFS")

def slowAndSessions : List Operation :=
  [.register slowFiles true, .openSession (some watchful), .openSession (some watchful)]

/-- One session has tried, and the connector has been enabled again. -/
def slowAgain : List Operation :=
  slowAndSessions ++ [.ask 0 (.child "dfs" false), .setEnabled "dfs" true]

theorem told_slowAgain : ∀ operation ∈ slowAgain,
    operation.Brings fun connector => connector = slowFiles := by
  intro operation hm
  simp only [slowAgain, slowAndSessions, List.cons_append, List.nil_append, List.mem_cons,
    List.not_mem_nil, or_false] at hm
  rcases hm with rfl | rfl | rfl | rfl | rfl
  · rfl
  · trivial
  · trivial
  · trivial
  · trivial

/-- The first session's two calls fail, and the second session's second call succeeds. -/
theorem slowFiles_loads :
    (∃ answer trace after,
      ((empty .immediate).run slowAndSessions).ask 0 (.child "dfs" false) =
        (.found answer, trace, after) ∧ LoadFails 0 "DFS" 2 answer trace ∧
      .called 0 ∉ ((after.run [.ask 1 (.child "dfs" false)]).ask 1 (.child "dfs" false)).2.1) ∧
    ∃ session later : Session, ∃ answer trace after,
      ((empty .immediate).run slowAgain).ask 1 (.child "dfs.tmp" false) =
        (.found answer, trace, after) ∧
      LoadSucceeds 0 "DFS" 2 session.tree later.tree answer trace := by
  have told : ∀ operation ∈ slowAndSessions,
      operation.Brings fun connector => connector = slowFiles :=
    fun operation hm => told_slowAgain operation (List.mem_append_left _ hm)
  have twice : ∀ session ∈ ((empty .immediate).run slowAgain).sessions,
      session.settings.maxAttempts = 2 := by decide +kernel
  have twice' : ∀ session ∈ ((empty .immediate).run slowAndSessions).sessions,
      session.settings.maxAttempts = 2 := by decide +kernel
  constructor
  · have opened : ((empty .immediate).run slowAndSessions).sessions[0]? = some ⟨.bare, watchful⟩ :=
      rfl
    have asked := ask_eq opened (.child "dfs" false)
    have left := ask_session opened (.child "dfs" false)
    have called : .called 0 ∈
        (((empty .immediate).run slowAndSessions).ask 0 (.child "dfs" false)).2.1 := by
      decide +kernel
    have first : (empty .immediate).loads 0 slowAndSessions = 0 := by decide +kernel
    rw [asked] at left called
    obtain ⟨fails, _, _, silent⟩ := @failing_connector_loads _ rfl rfl (fun _ => slowFiles) 0 rfl _
      told _ _ _ _ rfl 2 (fun _ _ h => twice' _ (Array.mem_of_getElem? h)) _ _ _ opened _ _ _ _
      asked left called
    refine ⟨_, _, _, asked, fails (by rw [first]; decide), ?_⟩
    apply (silent rfl rfl first (by decide) _ _).2
    exact ⟨id, trivial⟩
  · have before : ((empty .immediate).run slowAndSessions).sessions[1]? = some ⟨.bare, watchful⟩ :=
      rfl
    obtain ⟨session, still, _⟩ := run_session
      [.ask 0 (.child "dfs" false), .setEnabled "dfs" true] before Tree.sound_bare
    have opened : ((empty .immediate).run slowAgain).sessions[1]? = some session := by
      rw [slowAgain, run_append]
      exact still
    have asked := ask_eq opened (.child "dfs.tmp" false)
    have left := ask_session opened (.child "dfs.tmp" false)
    have called : .called 0 ∈
        (((empty .immediate).run slowAgain).ask 1 (.child "dfs.tmp" false)).2.1 := by
      decide +kernel
    have second : (empty .immediate).loads 0 slowAgain = 1 := by decide +kernel
    rw [asked] at left called
    obtain ⟨_, succeeds, _⟩ := @failing_connector_loads _ rfl rfl (fun _ => slowFiles) 0 rfl _
      told_slowAgain _ _ _ _ rfl 2 (fun _ _ h => twice _ (Array.mem_of_getElem? h)) _ _ _ opened
      _ _ _ _ asked left called
    exact ⟨_, _, _, _, _, asked, succeeds second⟩

end Catalog

end FederatedCatalog
