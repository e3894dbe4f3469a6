import FederatedCatalog.Alias
import FederatedCatalog.Connector.Retry

namespace FederatedCatalog

/-- A connector that could not be registered: the schema that was asked for, the connector, its
failures, and what was done about it. -/
structure LoadFailure where
  schema : String
  connector : String
  failures : Exhausted
  context : List String
  deriving DecidableEq

namespace LoadFailure

def cause (failure : LoadFailure) : Failure :=
  failure.failures.last

def attempts (failure : LoadFailure) : Nat :=
  failure.failures.previous.length + 1

def message (failure : LoadFailure) : String :=
  "\n".intercalate
    (["PLUGIN ERROR: Failed to load schema for schema " ++ failure.schema, "",
      failure.cause.typeName ++ ": " ++ failure.cause.message]
      ++ failure.cause.hint?.toList ++ failure.context)

end LoadFailure

inductive LookupError
  | load (failure : LoadFailure)
  | unexpectedSchema (schema typeName connector : String)
  | invalidAlias (kind : AliasKind) (name target : String) (cause : PathError)
  deriving DecidableEq

namespace LookupError

def message : LookupError → String
  | load failure => failure.message
  | unexpectedSchema schema typeName connector =>
    "schema " ++ Text.quoted schema ++ " is not expected under root schema: found " ++ typeName
      ++ " node while loading " ++ Text.quoted connector
  | invalidAlias kind name target cause =>
    "invalid " ++ kind.label ++ " alias " ++ Text.quoted name ++ " => " ++ Text.quoted target
      ++ ": " ++ cause.message

def source? : LookupError → Option String
  | load failure => some failure.cause.message
  | unexpectedSchema .. => none
  | invalidAlias _ _ _ cause => some cause.message

end LookupError

end FederatedCatalog
