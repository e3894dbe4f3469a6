import FederatedCatalog.Text.Duration

namespace FederatedCatalog

/-- Why a connector could not register its schemas. -/
inductive FailureCause
  | connection (detail : String)
  | timeout (nanos : Nat)
  | accessDenied (detail : String)
  | invalidConfig (detail : String)
  | other (detail : String)
  deriving DecidableEq

structure Failure where
  cause : FailureCause
  hint? : Option String
  deriving DecidableEq

namespace FailureCause

def typeName : FailureCause → String
  | connection _ => "ConnectionError"
  | timeout _ => "TimeoutError"
  | accessDenied _ => "AccessDeniedError"
  | invalidConfig _ => "InvalidConfigError"
  | other _ => "RegistrationError"

def message : FailureCause → String
  | connection detail => "connection failed: " ++ detail
  | timeout nanos => "timed out after " ++ Text.duration nanos
  | accessDenied detail => "access denied: " ++ detail
  | invalidConfig detail => "invalid configuration: " ++ detail
  | other detail => detail

end FailureCause

namespace Failure

def typeName (failure : Failure) : String :=
  failure.cause.typeName

def message (failure : Failure) : String :=
  failure.cause.message

/-- The failure of a connector that was told to fail without being told how. -/
def unreachable (name : String) : Failure :=
  ⟨.connection (name ++ " is unreachable"), none⟩

end Failure

end FederatedCatalog
