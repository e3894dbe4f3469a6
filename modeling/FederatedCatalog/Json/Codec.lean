import FederatedCatalog.Json.Reader
import FederatedCatalog.Json.Writer

namespace FederatedCatalog

/-- What reads and writes JSON, and finds the fields of a record in a value. -/
class JsonCodec where
  /-- The value that a text spells. -/
  read : String → Option Json
  write : Json → String
  /-- The values of the fields of these names, each of which may be missing. -/
  fields? : List String → Json → Option (List (Option Json))
  /-- Whether a value can be taken whole, where it may be nested so deep. -/
  admits : Nat → Json → Bool
  /-- How deep arrays and objects may be nested in what is decoded. -/
  nestingLimit : Nat

export JsonCodec (nestingLimit)

instance JsonCodec.standard : JsonCodec where
  read := Json.read
  write := Json.write
  fields? := Json.fields?
  admits depth json := json.isPlain depth
  nestingLimit := 127

end FederatedCatalog
