import FederatedCatalog.Connector.Script
import FederatedCatalog.Proofs.OwnSchema
import FederatedCatalog.Proofs.Retry

namespace FederatedCatalog

namespace Settings

variable (settings : Settings)

def maxAttempts32 : UInt32 :=
  if settings.retryAttempts.toNat = attemptLimit then settings.retryAttempts
  else settings.retryAttempts + 1

theorem toNat_maxAttempts32 : settings.maxAttempts32.toNat = settings.maxAttempts := by
  have hlt := settings.retryAttempts.toNat_lt
  have hlimit : attemptLimit = 2 ^ 32 - 1 := rfl
  unfold maxAttempts maxAttempts32
  split
  next h => omega
  next h =>
    rw [UInt32.toNat_add, UInt32.toNat_one, Nat.mod_eq_of_lt (by omega)]
    omega

end Settings

namespace Connector

def next32? (number : UInt32) : Option UInt32 :=
  if number.toNat + 1 < UInt32.size then some (number + 1) else none

theorem next32?_of_lt {number limit : UInt32} (h : number < limit) :
    ∃ next, next32? number = some next ∧ next.toNat = number.toNat + 1 := by
  have hfits : number.toNat + 1 < UInt32.size := by
    have hlt := limit.toNat_lt
    rw [UInt32.lt_iff_toNat_lt] at h
    exact Nat.lt_of_le_of_lt h hlt
  refine ⟨number + 1, if_pos hfits, ?_⟩
  rw [UInt32.toNat_add, UInt32.toNat_one, Nat.mod_eq_of_lt hfits]

/-- The loop of attempts with the number of the next one kept in 32 bits. It has no result if a
number does not fit. -/
def retryFrom32? (connector : Connector) (settings : Settings) (interrupts : Nat → Bool)
    (earlier : Nat) (number : UInt32) (failures : Array Failure) (trace : Trace) :
    Option RetryRun :=
  let attempt := connector.attempt (earlier + failures.size)
  let trace := trace.push (.called connector.serial)
  match attempt.failure? with
  | none => some ⟨earlier + number.toNat, trace, .ok attempt.additions⟩
  | some failure =>
    let trace := trace.push (.notice
      (.attemptFailed number.toNat settings.maxAttempts32.toNat connector.name failure))
    if number < settings.maxAttempts32 then
      match _h : next32? number with
      | none => none
      | some next =>
        connector.retryFrom32? settings interrupts earlier next (failures.push failure)
          (trace ++ connector.pause settings interrupts failures.size)
    else
      some ⟨earlier + number.toNat, trace.push (.notice (.givingUp connector.name number.toNat)),
        .error ⟨failure, failures.toList⟩⟩
termination_by settings.maxAttempts32.toNat - number.toNat
decreasing_by
  rename_i hlt
  obtain ⟨next', hnext', hvalue⟩ := next32?_of_lt hlt
  cases Option.some.inj (_h.symm.trans hnext')
  rw [UInt32.lt_iff_toNat_lt] at hlt
  omega

/-- The number of an attempt always fits, so the loop is the one that counts without a limit. -/
theorem retryFrom32?_eq {connector : Connector} {settings : Settings} {interrupts : Nat → Bool}
    {earlier : Nat} {number : UInt32} {left : Nat} {failures : Array Failure}
    (hnumber : number.toNat = failures.size + 1)
    (hleft : number.toNat + left = settings.maxAttempts) (trace : Trace) :
    connector.retryFrom32? settings interrupts earlier number failures trace =
      some (connector.retryFrom settings interrupts earlier left failures trace) := by
  -- The number of the next attempt and the attempts left add up to the limit all along.
  induction left generalizing number failures trace with
  | zero =>
    have hlast : ¬number < settings.maxAttempts32 := by
      rw [UInt32.lt_iff_toNat_lt, settings.toNat_maxAttempts32]
      omega
    rw [retryFrom32?]
    cases h : (connector.attempt (earlier + failures.size)).failure? with
    | none => rw [retryFrom_of_success 0 h, hnumber]
    | some failure =>
      simp only [hlast, if_false]
      rw [retryFrom_zero h, hnumber, settings.toNat_maxAttempts32]
  | succ left ih =>
    have hmore : number < settings.maxAttempts32 := by
      rw [UInt32.lt_iff_toNat_lt, settings.toNat_maxAttempts32]
      omega
    obtain ⟨next, hnext, hvalue⟩ := next32?_of_lt hmore
    rw [retryFrom32?]
    cases h : (connector.attempt (earlier + failures.size)).failure? with
    | none => rw [retryFrom_of_success (left + 1) h, hnumber]
    | some failure =>
      simp only [hmore, if_true]
      split
      next hnone => rw [hnext] at hnone; cases hnone
      next next' hnext' =>
        cases Option.some.inj (hnext.symm.trans hnext')
        rw [retryFrom_succ h, settings.toNat_maxAttempts32, hnumber]
        apply ih
        · rw [hvalue, hnumber, Array.size_push]
        · omega

theorem retry_uninterrupted (connector : Connector) (settings : Settings)
    (interrupts interrupts' : Nat → Bool) (earlier : Nat) :
    (connector.retry settings interrupts earlier).calls =
        (connector.retry settings interrupts' earlier).calls ∧
      (connector.retry settings interrupts earlier).outcome =
        (connector.retry settings interrupts' earlier).outcome ∧
      (connector.retry settings interrupts earlier).trace.uninterrupted =
        (connector.retry settings interrupts' earlier).trace.uninterrupted := by
  rcases connector.success_or_failures earlier settings.maxAttempts with
    ⟨count, hcount, succeeded, failure, failed⟩ | ⟨failure, failed⟩
  · rw [retry_of_success hcount failed succeeded, retry_of_success hcount failed succeeded]
    refine ⟨rfl, rfl, ?_⟩
    rw [Trace.uninterrupted_append, Trace.uninterrupted_append,
      uninterrupted_lostCalls failure count interrupts']
  · rw [retry_of_failures failed, retry_of_failures failed]
    refine ⟨rfl, rfl, ?_⟩
    rw [Trace.uninterrupted_append, Trace.uninterrupted_append,
      uninterrupted_lostCalls failure _ interrupts']

/-- A registration with retries is a bounded loop with the effect of one call, or none. Up to the
first call that succeeds, or the last one allowed, each call is followed by a wait. The tree gains
what the call that succeeded added and nothing of what failed calls did, and if all calls fail it
stays as it was. Waits that are cut short change nothing, and attempts may be counted in 32 bits. -/
theorem retry_bounded (connector : Connector) (settings : Settings) (interrupts : Nat → Bool)
    (earlier : Nat) (tree : Tree) :
    settings.maxAttempts = min (settings.retryAttempts.toNat + 1) (Nat.pow 2 32 - 1) ∧
    (∀ count < settings.maxAttempts,
      (∀ i < count, (connector.attempt (earlier + i)).failure? ≠ none) →
      (connector.attempt (earlier + count)).failure? = none →
      (connector.retry settings interrupts earlier).outcome =
          .ok (connector.attempt (earlier + count)).additions ∧
        (connector.retry settings interrupts earlier).Makes connector settings earlier (count + 1)
          count ∧
        (connector.retry settings interrupts earlier).grow connector.name tree =
          tree.merge
            (Tree.staged connector.name (connector.attempt (earlier + count)).additions) ∧
        (tree.Sound → tree.Gains
          ((connector.retry settings interrupts earlier).grow connector.name tree)
          (connector.added (earlier + count)))) ∧
    ((∀ i < settings.maxAttempts, (connector.attempt (earlier + i)).failure? ≠ none) →
      (∃ failure : Nat → Failure,
        (∀ i < settings.maxAttempts,
          (connector.attempt (earlier + i)).failure? = some (failure i)) ∧
        (connector.retry settings interrupts earlier).outcome =
          .error ⟨failure (settings.maxAttempts - 1),
            (List.range (settings.maxAttempts - 1)).map failure⟩) ∧
        (connector.retry settings interrupts earlier).Makes connector settings earlier
          settings.maxAttempts (settings.maxAttempts - 1) ∧
        (connector.retry settings interrupts earlier).grow connector.name tree = tree) ∧
    (∀ interrupts' : Nat → Bool,
      (connector.retry settings interrupts earlier).calls =
          (connector.retry settings interrupts' earlier).calls ∧
        (connector.retry settings interrupts earlier).outcome =
          (connector.retry settings interrupts' earlier).outcome ∧
        (connector.retry settings interrupts earlier).trace.uninterrupted =
          (connector.retry settings interrupts' earlier).trace.uninterrupted) ∧
    connector.retryFrom32? settings interrupts earlier 1 #[] #[] =
      some (connector.retry settings interrupts earlier) := by
  refine ⟨settings.maxAttempts_eq, ?_, ?_, ?_, ?_⟩
  · intro count hcount hfailed succeeded
    obtain ⟨failure, failed⟩ := exists_failures hfailed
    have grown : (connector.retry settings interrupts earlier).grow connector.name tree =
        tree.merge (.staged connector.name (connector.attempt (earlier + count)).additions) := by
      rw [retry_of_success hcount failed succeeded]
      rfl
    refine ⟨?_, makes_of_success interrupts hcount failed succeeded, grown, fun sound => ?_⟩
    · rw [retry_of_success hcount failed succeeded]
    · rw [grown]
      exact Tree.register_gains sound connector.name _
  · intro hfailed
    obtain ⟨failure, failed⟩ := exists_failures hfailed
    refine ⟨⟨failure, failed, ?_⟩, makes_of_failures interrupts failed, ?_⟩
    · rw [retry_of_failures failed]
    · rw [retry_of_failures failed]
      rfl
  · exact fun interrupts' => connector.retry_uninterrupted settings interrupts interrupts' earlier
  · apply retryFrom32?_eq
    · rfl
    · exact Nat.add_sub_cancel' settings.maxAttempts_pos

def boom : Failure :=
  ⟨.other "boom", none⟩

/-- A connector that fails once, after it has opened a schema, and opens another one the next
time. -/
def secondTry : Connector :=
  .scripted 0 "s" [⟨[⟨["half"], none, []⟩], some boom⟩, ⟨[⟨["s"], none, []⟩], none⟩]

/-- A connector that opens a schema and fails, time and again. -/
def noTry : Connector :=
  .scripted 1 "n" [⟨[⟨["half"], none, []⟩], some boom⟩]

def threeAttempts : Settings :=
  { Settings.immediate with retryAttempts := 2, retryDelay := 5 }

/-- One connector registers in its second call, and the other one fails in three. -/
theorem secondTry_noTry_retry :
    ((∀ i < 1, (secondTry.attempt (0 + i)).failure? ≠ none) ∧
      (secondTry.attempt (0 + 1)).failure? = none ∧
      (secondTry.retry threeAttempts (fun _ => true) 0).Makes secondTry threeAttempts 0 2 1 ∧
      Tree.bare.Gains ((secondTry.retry threeAttempts (fun _ => true) 0).grow "s" .bare)
        (secondTry.added 1) ∧
      (secondTry.retry threeAttempts (fun _ => true) 0).grow "s" .bare =
        ⟨#[⟨0, "", none, .root, [("s", 1)], []⟩, ⟨1, "s", some 0, .schema "s", [], []⟩]⟩) ∧
    (∀ i < 3, (noTry.attempt (0 + i)).failure? ≠ none) ∧
      (noTry.retry threeAttempts (fun _ => false) 0).Makes noTry threeAttempts 0 3 2 ∧
      (noTry.retry threeAttempts (fun _ => false) 0).grow "n" .bare = .bare := by
  have failedOnce : ∀ i < 1, (secondTry.attempt (0 + i)).failure? ≠ none := by decide
  have succeeded : (secondTry.attempt (0 + 1)).failure? = none := rfl
  have failed : ∀ i < 3, (noTry.attempt (0 + i)).failure? ≠ none := by decide
  obtain ⟨_, success, _⟩ := retry_bounded secondTry threeAttempts (fun _ => true) 0 .bare
  obtain ⟨_, _, failure, _⟩ := retry_bounded noTry threeAttempts (fun _ => false) 0 .bare
  obtain ⟨_, makes, grown, gains⟩ := success 1 (by decide) failedOnce succeeded
  obtain ⟨_, makes', kept⟩ := failure failed
  refine ⟨⟨failedOnce, succeeded, makes, gains Tree.sound_bare, ?_⟩, failed, makes', kept⟩
  exact grown.trans (by decide +kernel)

end Connector

end FederatedCatalog
