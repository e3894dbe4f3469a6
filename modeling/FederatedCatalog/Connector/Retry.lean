import FederatedCatalog.Connector.Trace

namespace FederatedCatalog

/-- The failures of a connector that never succeeded: the last one, and those before, oldest
first. -/
structure Exhausted where
  last : Failure
  previous : List Failure
  deriving DecidableEq

/-- How a registration went: how often the connector has been called by its end, what was seen of
it, and the additions of the call that succeeded. -/
structure RetryRun where
  calls : Nat
  trace : Trace
  outcome : Except Exhausted (List Addition)

/-- The tree after a registration: with the additions of the call that succeeded, or as it was. -/
def RetryRun.grow (run : RetryRun) (connector : String) (tree : Tree) : Tree :=
  match run.outcome with
  | .ok additions => tree.merge (Tree.staged connector additions)
  | .error _ => tree

namespace Connector

/-- What is seen between a failed attempt and the next one. `interrupts` says which waits are cut
short. -/
def pause (connector : Connector) (settings : Settings) (interrupts : Nat → Bool) (waits : Nat) :
    List Event :=
  [.notice (.nextAttempt connector.name settings.retryDelay), .waited settings.retryDelay]
    ++ if interrupts waits then [.notice (.interrupted connector.name)] else []

/-- The attempts after some have failed, with `left` more to follow the next one. -/
def retryFrom (connector : Connector) (settings : Settings) (interrupts : Nat → Bool)
    (earlier left : Nat) (failures : Array Failure) (trace : Trace) : RetryRun :=
  let number := failures.size + 1
  let attempt := connector.attempt (earlier + failures.size)
  let trace := trace.push (.called connector.serial)
  match attempt.failure? with
  | none => ⟨earlier + number, trace, .ok attempt.additions⟩
  | some failure =>
    let trace := trace.push
      (.notice (.attemptFailed number settings.maxAttempts connector.name failure))
    match left with
    | 0 =>
      ⟨earlier + number, trace.push (.notice (.givingUp connector.name number)),
        .error ⟨failure, failures.toList⟩⟩
    | left + 1 =>
      connector.retryFrom settings interrupts earlier left (failures.push failure)
        (trace ++ connector.pause settings interrupts failures.size)

/-- Calls the connector, which has been called `earlier` times, as often as the settings allow. -/
def retry (connector : Connector) (settings : Settings) (interrupts : Nat → Bool) (earlier : Nat) :
    RetryRun :=
  connector.retryFrom settings interrupts earlier (settings.maxAttempts - 1) #[] #[]

end Connector

end FederatedCatalog
