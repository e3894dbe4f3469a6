import FederatedCatalog.Catalog
import FederatedCatalog.Description.Schema

namespace FederatedCatalog

structure ConnectorDescription where
  enabled : Bool
  failTimes : UInt32
  /-- What the connector says when it fails. -/
  failure? : Option String
  schema : SchemaDescription
  deriving BEq

structure CatalogDescription where
  settings : Settings
  connectors : NameMap ConnectorDescription
  aliases : Aliases
  deriving BEq

/-- Why a description can not be had, or no catalog be built from it. -/
inductive DescriptionError
  | unreadable
  | malformed
  | aliases (error : AliasError)
  | connector (error : RegistryError)
  deriving DecidableEq

def DescriptionError.message? : DescriptionError → Option String
  | unreadable => none
  | malformed => none
  | aliases error => some ("alias error: " ++ error.message)
  | connector error => some ("connector error: " ++ error.message)

def ConnectorDescription.connector (description : ConnectorDescription) (serial : Nat)
    (name : String) : Connector :=
  Connector.described serial name description.schema description.failTimes
    (match description.failure? with
      | some detail => ⟨.connection detail, none⟩
      | none => Failure.unreachable name)

namespace CatalogDescription

/-- Registers connectors in the order given, numbered from `serial`. -/
def registerFrom (serial : Nat) (registry : Registry) :
    List (String × ConnectorDescription) → Except RegistryError Registry
  | [] => .ok registry
  | (name, description) :: rest =>
    match registry.register (description.connector serial name) description.enabled with
    | .ok registry => registerFrom (serial + 1) registry rest
    | .error error => .error error

/-- The catalog that a description tells of, without sessions. The connectors are looked at before
the aliases. -/
def build (description : CatalogDescription) : Except DescriptionError Catalog :=
  match registerFrom 0 .empty description.connectors with
  | .error error => .error (.connector error)
  | .ok registry =>
    match description.aliases.check with
    | .error error => .error (.aliases error)
    | .ok () =>
      .ok { Catalog.empty description.settings with registry, aliases := description.aliases }

end CatalogDescription

end FederatedCatalog
