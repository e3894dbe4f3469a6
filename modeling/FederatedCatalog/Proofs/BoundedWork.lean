import FederatedCatalog.Proofs.Escalation
import FederatedCatalog.Proofs.Reached

namespace FederatedCatalog

namespace Trace

def disableRequests (trace : Trace) : List String :=
  trace.toList.filterMap fun
    | .disableAsked connector => some connector
    | _ => none

theorem disableRequests_append (first second : List Event) :
    disableRequests (first ++ second).toArray =
      disableRequests first.toArray ++ disableRequests second.toArray := by
  simp [disableRequests]

/-- The calls, waits and requests to disable a connector that are seen, each in their order. -/
structure Shows (trace : Trace) (called : List Nat) (waited : List UInt64)
    (disabled : List String) : Prop where
  callees : trace.callees = called
  waits : trace.waits = waited
  requests : trace.disableRequests = disabled

theorem Shows.append {first second : Trace} {called called' : List Nat}
    {waited waited' : List UInt64} {disabled disabled' : List String}
    (h : first.Shows called waited disabled) (h' : second.Shows called' waited' disabled') :
    (first ++ second).Shows (called ++ called') (waited ++ waited') (disabled ++ disabled') := by
  obtain ⟨rfl, rfl, rfl⟩ := h
  obtain ⟨rfl, rfl, rfl⟩ := h'
  constructor
  · simp [Trace.callees]
  · simp [Trace.waits]
  · simp [Trace.disableRequests]

theorem shows_empty : Shows #[] [] [] [] :=
  ⟨rfl, rfl, rfl⟩

theorem shows_notes (notices : List Notice) :
    Shows (notices.map Event.notice).toArray [] [] [] := by
  induction notices with
  | nil => exact shows_empty
  | cons notice rest ih =>
    have first : Shows #[.notice notice] [] [] [] := ⟨rfl, rfl, rfl⟩
    have both := first.append ih
    simpa using both

end Trace

namespace Connector

variable {connector : Connector} {settings : Settings} {interrupts : Nat → Bool}

theorem disableRequests_lostCalls (failure : Nat → Failure) (count : Nat) : Trace.disableRequests
    (connector.lostCalls settings interrupts failure count).toArray = [] := by
  induction count with
  | zero => rfl
  | succ count ih =>
    have lost :
        Trace.disableRequests (connector.lostCall settings interrupts failure count).toArray =
          [] := by
      simp only [Trace.disableRequests, lostCall, pause]
      split <;> rfl
    rw [lostCalls_succ, Trace.disableRequests_append, ih, lost]
    rfl

theorem retry_shows (connector : Connector) (settings : Settings) (interrupts : Nat → Bool)
    (earlier : Nat) : ∃ waits < settings.maxAttempts,
      (connector.retry settings interrupts earlier).calls = earlier + (waits + 1) ∧
      (connector.retry settings interrupts earlier).trace.Shows
        (List.replicate (waits + 1) connector.serial)
        (List.replicate waits settings.retryDelay) [] ∧
      ∀ exhausted, (connector.retry settings interrupts earlier).outcome = .error exhausted →
        waits + 1 = settings.maxAttempts := by
  rcases connector.success_or_failures earlier settings.maxAttempts with
    ⟨count, hcount, succeeded, failure, failed⟩ | ⟨failure, failed⟩
  · obtain ⟨hcalls, hcallees, hwaits⟩ := makes_of_success interrupts hcount failed succeeded
    rw [retry_of_success hcount failed succeeded] at hcalls hcallees hwaits ⊢
    refine ⟨count, hcount, hcalls, ⟨hcallees, hwaits, ?_⟩, fun exhausted h => by cases h⟩
    rw [Trace.disableRequests_append, disableRequests_lostCalls]
    rfl
  · obtain ⟨hcalls, hcallees, hwaits⟩ := makes_of_failures interrupts failed
    have hone : settings.maxAttempts - 1 + 1 = settings.maxAttempts :=
      Nat.sub_add_cancel settings.maxAttempts_pos
    rw [retry_of_failures failed] at hcalls hcallees hwaits ⊢
    refine ⟨settings.maxAttempts - 1, Nat.sub_one_lt_of_lt settings.maxAttempts_pos, ?_,
      ⟨?_, hwaits, ?_⟩, fun _ _ => hone⟩
    · rw [hone]
    · rw [hone]
      exact hcallees
    · rw [Trace.disableRequests_append, disableRequests_lostCalls]
      rfl

end Connector

namespace LookupState

variable {context : LookupContext} {state after : LookupState}

theorem noted_trace (state : LookupState) (notices : List Notice) :
    (state.noted notices).trace = state.trace ++ (notices.map Event.notice).toArray := by
  induction notices generalizing state with
  | nil => simp [noted]
  | cons notice rest ih =>
    have hrest := ih (state.note notice)
    simpa [noted, note, record] using hrest

theorem QuietSteps.trace (quiet : QuietSteps state after) :
    ∃ notices : List Notice,
      after.trace = state.trace ++ (notices.map Event.notice).toArray := by
  induction quiet with
  | refl => exact ⟨[], by simp⟩
  | tail _ step ih =>
    obtain ⟨notices, h⟩ := ih
    cases step with
    | note notice => exact ⟨notices ++ [notice], by simp [note, record, h]⟩
    | flatten => exact ⟨notices, h⟩

theorem disable_trace (state : LookupState) (lock? : Option String) (name : String) :
    ∃ notices : List Notice, (state.disable lock? name).trace =
      state.trace ++ (#[.disableAsked name] ++ (notices.map Event.notice).toArray) := by
  unfold disable
  simp only
  split
  next => exact ⟨[], by simp [record]⟩
  next error _ =>
    refine ⟨[.notDisabled name error], Array.ext' ?_⟩
    simp [note, record]

theorem giveUp_trace (state : LookupState) (context : LookupContext) (schema connector : String)
    (failures : Exhausted) : ∃ work : Trace,
      (state.giveUp context schema connector failures).after.trace = state.trace ++ work ∧
      work.Shows [] [] (if context.settings.autoDisable then [connector] else []) := by
  unfold giveUp
  simp only
  split
  next =>
    obtain ⟨notices, h⟩ := ((state.note (.loadFailed schema failures.last)).note
      (.disabling connector)).disable_trace context.lock? connector
    have before := Trace.shows_notes [.loadFailed schema failures.last, .disabling connector]
    have request : Trace.Shows #[.disableAsked connector] [] [] [connector] := ⟨rfl, rfl, rfl⟩
    refine ⟨_, ?_, before.append (request.append (Trace.shows_notes notices))⟩
    rw [h]
    simp [note, record]
  next =>
    refine ⟨_, ?_, Trace.shows_notes [.loadFailed schema failures.last]⟩
    simp [note, record]

/-- What is done to have a connector register: calls, waits and requests to disable it are seen in
`work`, and what comes of a request is known. -/
structure Registers (context : LookupContext) (state : LookupState) (connector : Connector)
    (waits : Nat) (requests : List String) (work : Trace) (after : LookupState) : Prop where
  limit : waits < context.settings.maxAttempts
  shows : work.Shows (List.replicate (waits + 1) connector.serial)
    (List.replicate waits context.settings.retryDelay) requests
  counted : after.calls =
    state.calls.set connector.serial (state.calls.of connector.serial + (waits + 1))
  registry : requests = [] ∧ after.registry = state.registry ∨
    requests = [connector.name] ∧ waits + 1 = context.settings.maxAttempts ∧
      after.registry = state.registry.disabledUnder context.lock? connector.name

theorem register_work (state : LookupState) (context : LookupContext) (schema : String)
    (connector : Connector) : ∃ waits requests, ∃ work : Trace,
      (state.register context schema connector).after.trace = state.trace ++ work ∧
      Registers context state connector waits requests work
        (state.register context schema connector).after := by
  obtain ⟨waits, hlimit, hcalls, shows, hlast⟩ :=
    connector.retry_shows context.settings context.interrupts (state.calls.of connector.serial)
  cases houtcome : (connector.retry context.settings context.interrupts
    (state.calls.of connector.serial)).outcome with
  | ok additions =>
    refine ⟨waits, [], _, ?_, hlimit, shows, ?_, Or.inl ⟨rfl, ?_⟩⟩
    · simp only [register, houtcome]
    · simp only [register, houtcome, hcalls]
    · simp only [register, houtcome]
  | error exhausted =>
    obtain ⟨told, htold, showsTold⟩ := giveUp_trace
      { state with
        tree := (connector.retry context.settings context.interrupts
          (state.calls.of connector.serial)).grow connector.name state.tree
        calls := state.calls.set connector.serial (connector.retry context.settings
          context.interrupts (state.calls.of connector.serial)).calls
        trace := state.trace ++ (connector.retry context.settings context.interrupts
          (state.calls.of connector.serial)).trace }
      context schema connector.name exhausted
    have both := shows.append showsTold
    simp only [List.append_nil, List.nil_append] at both
    refine ⟨waits, _, _, ?_, hlimit, both, ?_, ?_⟩
    · simp only [register, houtcome, htold, Array.append_assoc]
    · simp only [register, houtcome, giveUp_calls, hcalls]
    · simp only [register, houtcome, giveUp_registry, LookupContext.escalated]
      split
      next => exact Or.inr ⟨rfl, hlast exhausted houtcome, rfl⟩
      next => exact Or.inl ⟨rfl, rfl⟩

/-- What a lookup does but for notes and for what it makes in the tree: nothing, or it has one
connector register. -/
theorem Course.work (course : Course context state after) : ∃ work : Trace,
    after.trace = state.trace ++ work ∧
    (work.Shows [] [] [] ∧ after.calls = state.calls ∧ after.registry = state.registry ∨
      ∃ name connector waits requests, state.registry.enabled? name = some connector ∧
        Registers context state connector waits requests work after) := by
  cases course with
  | quiet quiet =>
    obtain ⟨notices, h⟩ := quiet.trace
    exact ⟨_, h, Or.inl ⟨Trace.shows_notes notices, quiet.calls, quiet.registry_eq⟩⟩
  | @loading name connector notices schema lowered free serves quiet =>
    obtain ⟨later, hlater⟩ := quiet.trace
    obtain ⟨waits, requests, work, hwork, registers⟩ :=
      (state.noted notices).register_work context schema connector
    have whole := ((Trace.shows_notes notices).append registers.shows).append
      (Trace.shows_notes later)
    simp only [List.append_nil, List.nil_append] at whole
    refine ⟨_, ?_,
      Or.inr ⟨name, connector, waits, requests, serves, registers.limit, whole, ?_, ?_⟩⟩
    · rw [hlater, hwork, noted_trace, Array.append_assoc, Array.append_assoc, Array.append_assoc]
    · rw [quiet.calls, registers.counted, noted_calls]
    · have hregistry := registers.registry
      rw [noted_registry] at hregistry
      rw [quiet.registry_eq]
      exact hregistry

end LookupState

/-- Whatever a session is asked for, one connector is called at most, no more often than the
settings allow, with a wait between two calls as long as the settings say; and one request is made
at most, to disable that connector. -/
theorem Tree.Reached.ask_bounded {state : LookupState} (reached : state.tree.Reached)
    (context : LookupContext) (question : Question) : ∃ work : Trace,
    (question.ask context state).after.trace = state.trace ++ work ∧
    (work.Shows [] [] [] ∧ (question.ask context state).after.calls = state.calls ∧
        (question.ask context state).after.registry = state.registry ∨
      ∃ name connector waits requests, state.registry.enabled? name = some connector ∧
        state.Registers context connector waits requests work
          (question.ask context state).after) :=
  (LookupState.ask_course reached.sound question).work

/-- Two attempts with a wait between them. -/
def watchfulAndSlow : Settings :=
  { Catalog.watchful with retryDelay := 7 }

/-- A table alias whose target goes through another alias. -/
def aliasedTwice : Catalog :=
  (Catalog.empty watchfulAndSlow).run [.register Catalog.sinkingConnector true,
    .addAlias .namespaces none "quick" "Down.x", .addAlias .tables none "t" "quick.y.t"]

/-- The connector is called twice and asked to be disabled once, though two aliases and three more
names are on the way. -/
theorem aliasedTwice_bounded : ∃ name connector waits requests, ∃ work : Trace,
    work.callees = [0, 0] ∧ work.waits = [7] ∧ work.disableRequests = ["Down"] ∧
    aliasedTwice.registry.enabled? name = some connector ∧
    (aliasedTwice.state ⟨.bare, watchfulAndSlow⟩).Registers
      (aliasedTwice.context ⟨.bare, watchfulAndSlow⟩) connector waits requests work
      ((Question.table "t" true).ask (aliasedTwice.context ⟨.bare, watchfulAndSlow⟩)
        (aliasedTwice.state ⟨.bare, watchfulAndSlow⟩)).after := by
  have hcallees : Trace.callees ((Question.table "t" true).ask
      (aliasedTwice.context ⟨.bare, watchfulAndSlow⟩)
      (aliasedTwice.state ⟨.bare, watchfulAndSlow⟩)).after.trace = [0, 0] := by decide +kernel
  have hwaits : Trace.waits ((Question.table "t" true).ask
      (aliasedTwice.context ⟨.bare, watchfulAndSlow⟩)
      (aliasedTwice.state ⟨.bare, watchfulAndSlow⟩)).after.trace = [7] := by decide +kernel
  have hrequests : Trace.disableRequests ((Question.table "t" true).ask
      (aliasedTwice.context ⟨.bare, watchfulAndSlow⟩)
      (aliasedTwice.state ⟨.bare, watchfulAndSlow⟩)).after.trace = ["Down"] := by decide +kernel
  have reached : (aliasedTwice.state ⟨.bare, watchfulAndSlow⟩).tree.Reached := .bare
  obtain ⟨work, hafter, hwork⟩ :=
    reached.ask_bounded (aliasedTwice.context ⟨.bare, watchfulAndSlow⟩) (.table "t" true)
  have htrace := hafter.trans Array.empty_append
  rw [htrace] at hcallees hwaits hrequests
  rcases hwork with ⟨shows, _⟩ | ⟨name, connector, waits, requests, serves, registers⟩
  · rw [shows.callees] at hcallees
    cases hcallees
  · exact ⟨name, connector, waits, requests, work, hcallees, hwaits, hrequests, serves, registers⟩

end FederatedCatalog
