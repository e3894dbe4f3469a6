import FederatedCatalog.Connector.Retry
import Mathlib.Data.Nat.Find

namespace FederatedCatalog

namespace Trace

/-- The connectors that were called, by their serial numbers. -/
def callees (trace : Trace) : List Nat :=
  trace.toList.filterMap fun
    | .called serial => some serial
    | _ => none

/-- What is seen but for the notes of waits that were cut short. -/
def uninterrupted (trace : Trace) : List Event :=
  trace.toList.filter fun
    | .notice (.interrupted _) => false
    | _ => true

theorem mem_callees {trace : Trace} {serial : Nat} :
    serial ∈ trace.callees ↔ .called serial ∈ trace := by
  rw [callees, List.mem_filterMap, ← Array.mem_toList_iff]
  constructor
  · rintro ⟨event, hm, heq⟩
    cases event with
    | called other =>
      cases Option.some.inj heq
      exact hm
    | notice => cases heq
    | waited => cases heq
    | disableAsked => cases heq
  · exact fun hm => ⟨_, hm, rfl⟩

section Append

variable (first second : List Event)

theorem callees_append : callees (first ++ second).toArray =
    callees first.toArray ++ callees second.toArray := by
  simp [callees]

theorem waits_append : waits (first ++ second).toArray =
    waits first.toArray ++ waits second.toArray := by
  simp [waits]

theorem uninterrupted_append : uninterrupted (first ++ second).toArray =
    uninterrupted first.toArray ++ uninterrupted second.toArray := by
  simp [uninterrupted]

end Append

end Trace

namespace Settings

variable (settings : Settings)

theorem maxAttempts_eq :
    settings.maxAttempts = min (settings.retryAttempts.toNat + 1) (Nat.pow 2 32 - 1) :=
  rfl

theorem maxAttempts_pos : 0 < settings.maxAttempts := by
  have hlimit : 0 < attemptLimit := by decide
  unfold maxAttempts
  omega

end Settings

namespace Connector

/-- What is seen of a call that fails and is followed by another one. -/
def lostCall (connector : Connector) (settings : Settings) (interrupts : Nat → Bool)
    (failure : Nat → Failure) (number : Nat) : List Event :=
  [.called connector.serial, .notice
    (.attemptFailed (number + 1) settings.maxAttempts connector.name (failure number))]
      ++ connector.pause settings interrupts number

def lostCalls (connector : Connector) (settings : Settings) (interrupts : Nat → Bool)
    (failure : Nat → Failure) (count : Nat) : List Event :=
  (List.range count).flatMap (connector.lostCall settings interrupts failure)

def lastCall (connector : Connector) (settings : Settings) (failure : Failure) : List Event :=
  [.called connector.serial, .notice
    (.attemptFailed settings.maxAttempts settings.maxAttempts connector.name failure),
    .notice (.givingUp connector.name settings.maxAttempts)]

section Attempts

variable {connector : Connector} {settings : Settings} {interrupts : Nat → Bool} {earlier : Nat}

section One

variable {failures : Array Failure} {trace : Trace}

theorem retryFrom_of_success (left : Nat)
    (h : (connector.attempt (earlier + failures.size)).failure? = none) :
    connector.retryFrom settings interrupts earlier left failures trace =
      ⟨earlier + (failures.size + 1), trace.push (.called connector.serial),
        .ok (connector.attempt (earlier + failures.size)).additions⟩ := by
  unfold retryFrom
  simp only [h]

theorem retryFrom_zero {failure : Failure}
    (h : (connector.attempt (earlier + failures.size)).failure? = some failure) :
    connector.retryFrom settings interrupts earlier 0 failures trace =
      ⟨earlier + (failures.size + 1),
        ((trace.push (.called connector.serial)).push (.notice (.attemptFailed (failures.size + 1)
          settings.maxAttempts connector.name failure))).push
            (.notice (.givingUp connector.name (failures.size + 1))),
        .error ⟨failure, failures.toList⟩⟩ := by
  unfold retryFrom
  simp only [h]

theorem retryFrom_succ {left : Nat} {failure : Failure}
    (h : (connector.attempt (earlier + failures.size)).failure? = some failure) :
    connector.retryFrom settings interrupts earlier (left + 1) failures trace =
      connector.retryFrom settings interrupts earlier left (failures.push failure)
        ((trace.push (.called connector.serial)).push (.notice (.attemptFailed (failures.size + 1)
          settings.maxAttempts connector.name failure))
            ++ connector.pause settings interrupts failures.size) := by
  rw [retryFrom]
  simp only [h]

end One

theorem size_failures (failure : Nat → Failure) (count : Nat) :
    ((List.range count).map failure).toArray.size = count := by
  simp

theorem lostCalls_succ (failure : Nat → Failure) (count : Nat) :
    connector.lostCalls settings interrupts failure (count + 1) =
      connector.lostCalls settings interrupts failure count ++
        connector.lostCall settings interrupts failure count := by
  simp [lostCalls, List.range_succ]

theorem retryFrom_of_failures {failure : Nat → Failure} {count left : Nat} (hcount : count ≤ left)
    (failed : ∀ i < count, (connector.attempt (earlier + i)).failure? = some (failure i)) :
    connector.retryFrom settings interrupts earlier left #[] #[] =
      connector.retryFrom settings interrupts earlier (left - count)
        ((List.range count).map failure).toArray
        (connector.lostCalls settings interrupts failure count).toArray := by
  induction count with
  | zero => rfl
  | succ count ih =>
    have hlast : (connector.attempt
        (earlier + ((List.range count).map failure).toArray.size)).failure? =
          some (failure count) := by
      rw [size_failures]
      exact failed count (Nat.lt_succ_self count)
    have hleft : left - count = left - (count + 1) + 1 := by omega
    rw [ih (by omega) (fun i hi => failed i (by omega)), hleft, retryFrom_succ hlast,
      size_failures, lostCalls_succ, List.range_succ]
    congr 1 <;> simp [lostCall]

theorem retry_of_success {failure : Nat → Failure} {count : Nat}
    (hcount : count < settings.maxAttempts)
    (failed : ∀ i < count, (connector.attempt (earlier + i)).failure? = some (failure i))
    (succeeded : (connector.attempt (earlier + count)).failure? = none) :
    connector.retry settings interrupts earlier = ⟨earlier + (count + 1),
      (connector.lostCalls settings interrupts failure count ++
        [Event.called connector.serial]).toArray,
      .ok (connector.attempt (earlier + count)).additions⟩ := by
  rw [retry, retryFrom_of_failures (Nat.le_sub_one_of_lt hcount) failed, retryFrom_of_success,
    size_failures]
  · simp
  · rw [size_failures]
    exact succeeded

theorem retry_of_failures {failure : Nat → Failure}
    (failed : ∀ i < settings.maxAttempts,
      (connector.attempt (earlier + i)).failure? = some (failure i)) :
    connector.retry settings interrupts earlier = ⟨earlier + settings.maxAttempts,
      (connector.lostCalls settings interrupts failure (settings.maxAttempts - 1) ++
        connector.lastCall settings (failure (settings.maxAttempts - 1))).toArray,
      .error ⟨failure (settings.maxAttempts - 1),
        (List.range (settings.maxAttempts - 1)).map failure⟩⟩ := by
  obtain ⟨count, hcount⟩ : ∃ count, settings.maxAttempts = count + 1 :=
    ⟨settings.maxAttempts - 1, (Nat.sub_add_cancel settings.maxAttempts_pos).symm⟩
  have hlast : (connector.attempt
      (earlier + ((List.range count).map failure).toArray.size)).failure? =
        some (failure count) := by
    rw [size_failures]
    exact failed count (by omega)
  rw [retry, hcount, Nat.add_sub_cancel,
    retryFrom_of_failures (Nat.le_refl count) (fun i hi => failed i (by omega)), Nat.sub_self,
    retryFrom_zero hlast, size_failures]
  simp [lastCall, hcount]

theorem exists_failures {count : Nat}
    (h : ∀ i < count, (connector.attempt (earlier + i)).failure? ≠ none) :
    ∃ failure : Nat → Failure,
      ∀ i < count, (connector.attempt (earlier + i)).failure? = some (failure i) := by
  refine ⟨fun i =>
    (connector.attempt (earlier + i)).failure?.getD (.unreachable connector.name), ?_⟩
  intro i hi
  obtain ⟨failure, hfailure⟩ := Option.ne_none_iff_exists'.mp (h i hi)
  simp [hfailure]

theorem success_or_failures (connector : Connector) (earlier limit : Nat) :
    (∃ count < limit, (connector.attempt (earlier + count)).failure? = none ∧
      ∃ failure : Nat → Failure,
        ∀ i < count, (connector.attempt (earlier + i)).failure? = some (failure i)) ∨
    ∃ failure : Nat → Failure,
      ∀ i < limit, (connector.attempt (earlier + i)).failure? = some (failure i) := by
  by_cases h : ∃ count, count < limit ∧ (connector.attempt (earlier + count)).failure? = none
  · obtain ⟨hlt, succeeded⟩ := Nat.find_spec h
    refine Or.inl ⟨Nat.find h, hlt, succeeded, exists_failures ?_⟩
    intro i hi hnone
    exact Nat.find_min h hi ⟨Nat.lt_trans hi hlt, hnone⟩
  · exact Or.inr (exists_failures fun i hi hnone => h ⟨i, hi, hnone⟩)

section Seen

variable (failure : Nat → Failure) (count : Nat)

theorem callees_lostCalls : Trace.callees
    (connector.lostCalls settings interrupts failure count).toArray =
      List.replicate count connector.serial := by
  induction count with
  | zero => rfl
  | succ count ih =>
    have hlost : Trace.callees (connector.lostCall settings interrupts failure count).toArray =
        [connector.serial] := by
      simp only [Trace.callees, lostCall, pause]
      split <;> rfl
    rw [lostCalls_succ, Trace.callees_append, ih, hlost, List.replicate_succ']

theorem waits_lostCalls : Trace.waits
    (connector.lostCalls settings interrupts failure count).toArray =
      List.replicate count settings.retryDelay := by
  induction count with
  | zero => rfl
  | succ count ih =>
    have hlost : Trace.waits (connector.lostCall settings interrupts failure count).toArray =
        [settings.retryDelay] := by
      simp only [Trace.waits, lostCall, pause]
      split <;> rfl
    rw [lostCalls_succ, Trace.waits_append, ih, hlost, List.replicate_succ']

theorem uninterrupted_lostCalls (interrupts' : Nat → Bool) : Trace.uninterrupted
    (connector.lostCalls settings interrupts failure count).toArray =
      Trace.uninterrupted (connector.lostCalls settings interrupts' failure count).toArray := by
  induction count with
  | zero => rfl
  | succ count ih =>
    have hlost :
        Trace.uninterrupted (connector.lostCall settings interrupts failure count).toArray =
          Trace.uninterrupted (connector.lostCall settings interrupts' failure count).toArray := by
      simp only [Trace.uninterrupted, lostCall, pause]
      split <;> split <;> rfl
    rw [lostCalls_succ, lostCalls_succ, Trace.uninterrupted_append, Trace.uninterrupted_append, ih,
      hlost]

end Seen

end Attempts

end Connector

/-- How often a registration calls its connector, and how often it waits in between, each time for
as long as the settings say. -/
structure RetryRun.Makes (run : RetryRun) (connector : Connector) (settings : Settings)
    (earlier calls waits : Nat) : Prop where
  counted : run.calls = earlier + calls
  called : run.trace.callees = List.replicate calls connector.serial
  waited : run.trace.waits = List.replicate waits settings.retryDelay

namespace Connector

theorem makes_of_success {connector : Connector} {settings : Settings} (interrupts : Nat → Bool)
    {earlier : Nat} {failure : Nat → Failure} {count : Nat} (hcount : count < settings.maxAttempts)
    (failed : ∀ i < count, (connector.attempt (earlier + i)).failure? = some (failure i))
    (succeeded : (connector.attempt (earlier + count)).failure? = none) :
    (connector.retry settings interrupts earlier).Makes connector settings earlier (count + 1)
      count := by
  rw [retry_of_success hcount failed succeeded]
  refine ⟨rfl, ?_, ?_⟩
  · rw [Trace.callees_append, callees_lostCalls, List.replicate_succ']
    rfl
  · rw [Trace.waits_append, waits_lostCalls]
    exact List.append_nil _

theorem makes_of_failures {connector : Connector} {settings : Settings} (interrupts : Nat → Bool)
    {earlier : Nat} {failure : Nat → Failure}
    (failed : ∀ i < settings.maxAttempts,
      (connector.attempt (earlier + i)).failure? = some (failure i)) :
    (connector.retry settings interrupts earlier).Makes connector settings earlier
      settings.maxAttempts (settings.maxAttempts - 1) := by
  have hone : settings.maxAttempts - 1 + 1 = settings.maxAttempts :=
    Nat.sub_add_cancel settings.maxAttempts_pos
  rw [retry_of_failures failed]
  refine ⟨rfl, ?_, ?_⟩
  · rw [Trace.callees_append, callees_lostCalls]
    conv => rhs; rw [← hone, List.replicate_succ']
    rfl
  · rw [Trace.waits_append, waits_lostCalls]
    exact List.append_nil _

section Outcome

variable (connector : Connector) (settings : Settings) (interrupts : Nat → Bool) (earlier : Nat)

/-- A registration ends with the first call that succeeds, if there is one. -/
theorem retry_outcome : ∃ last, earlier ≤ last ∧
    (connector.retry settings interrupts earlier).calls = last + 1 ∧
    (∀ call, earlier ≤ call → call < last → (connector.attempt call).failure? ≠ none) ∧
    ((connector.attempt last).failure? = none ∧
        (connector.retry settings interrupts earlier).outcome =
          .ok (connector.attempt last).additions ∨
      (connector.attempt last).failure? ≠ none ∧ ∃ exhausted,
        (connector.retry settings interrupts earlier).outcome = .error exhausted) := by
  have earlierFailed : ∀ {count : Nat} {failure : Nat → Failure},
      (∀ i < count, (connector.attempt (earlier + i)).failure? = some (failure i)) →
      ∀ call, earlier ≤ call → call < earlier + count →
        (connector.attempt call).failure? ≠ none := by
    intro count failure failed call hle hlt
    obtain ⟨i, rfl⟩ := Nat.exists_eq_add_of_le hle
    rw [failed i (by omega)]
    exact Option.some_ne_none (failure i)
  rcases connector.success_or_failures earlier settings.maxAttempts with
    ⟨count, hcount, succeeded, failure, failed⟩ | ⟨failure, failed⟩
  · rw [retry_of_success hcount failed succeeded]
    exact ⟨earlier + count, by omega, rfl, earlierFailed failed, Or.inl ⟨succeeded, rfl⟩⟩
  · have hpos := settings.maxAttempts_pos
    have hlast : earlier + settings.maxAttempts = earlier + (settings.maxAttempts - 1) + 1 := by
      omega
    rw [retry_of_failures failed]
    refine ⟨earlier + (settings.maxAttempts - 1), by omega, hlast, ?_, Or.inr ⟨?_, _, rfl⟩⟩
    · exact earlierFailed fun i hi => failed i (by omega)
    · exact earlierFailed failed _ (by omega) (by omega)

theorem retry_trace {serial : Nat} :
    .called serial ∈ (connector.retry settings interrupts earlier).trace ↔
      serial = connector.serial := by
  rw [← Trace.mem_callees]
  rcases connector.success_or_failures earlier settings.maxAttempts with
    ⟨count, hcount, succeeded, failure, failed⟩ | ⟨failure, failed⟩
  · rw [(makes_of_success interrupts hcount failed succeeded).called]
    simp
  · rw [(makes_of_failures interrupts failed).called]
    simp [Nat.ne_of_gt settings.maxAttempts_pos]

end Outcome

end Connector

end FederatedCatalog
