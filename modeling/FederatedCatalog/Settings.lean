namespace FederatedCatalog

structure Settings where
  /-- Whose aliases are looked up. -/
  user : String
  /-- Whether tables are matched in the case in which they are written. -/
  caseSensitive : Bool
  /-- How often a failed registration is tried again. -/
  retryAttempts : UInt32
  /-- The milliseconds between two attempts. -/
  retryDelay : UInt64
  /-- Whether a connector that could not be registered is disabled. -/
  autoDisable : Bool
  deriving DecidableEq

namespace Settings

/-- The largest number of attempts that is ever made. -/
def attemptLimit : Nat :=
  UInt32.size - 1

/-- How many attempts are made in all. -/
def maxAttempts (settings : Settings) : Nat :=
  min (settings.retryAttempts.toNat + 1) attemptLimit

def interactive : Settings :=
  ⟨"anonymous", false, 1, 1000, false⟩

def immediate : Settings :=
  ⟨"test", false, 0, 0, false⟩

def withUser (settings : Settings) (user : String) : Settings :=
  { settings with user }

/-- The names under which messages speak of the settings. -/
def retryAttemptsOption : String :=
  "store.plugin.retry_attempts"

def retryDelayOption : String :=
  "store.plugin.retry_delay"

def autoDisableOption : String :=
  "store.plugin.auto_disable"

end Settings

end FederatedCatalog
