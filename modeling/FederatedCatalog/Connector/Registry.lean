import FederatedCatalog.Connector.Basic

namespace FederatedCatalog

structure Registered where
  connector : Connector
  enabled : Bool

inductive RegistryError
  | notFound (name : String)
  | duplicated (name : String)
  | immutable (name reason : String)
  deriving DecidableEq

def RegistryError.message : RegistryError → String
  | notFound name => "connector not found: " ++ name
  | duplicated name => "duplicated connector: " ++ name
  | immutable name reason => "connector " ++ name ++ " can not be changed: " ++ reason

structure Registry where
  entries : NameMap Registered

namespace Registry

def empty : Registry :=
  ⟨[]⟩

def find? (registry : Registry) (name : String) : Option Registered :=
  registry.entries.get? (Text.lower name)

def register (registry : Registry) (connector : Connector) (enabled : Bool) :
    Except RegistryError Registry :=
  let key := Text.lower connector.name
  if registry.entries.contains key then .error (.duplicated key)
  else .ok ⟨registry.entries.put key ⟨connector, enabled⟩⟩

def remove (registry : Registry) (name : String) : Except RegistryError (Connector × Registry) :=
  match registry.find? name with
  | none => .error (.notFound name)
  | some found => .ok (found.connector, ⟨registry.entries.erase (Text.lower name)⟩)

def isEnabled? (registry : Registry) (name : String) : Option Bool :=
  (registry.find? name).map Registered.enabled

def setEnabled (registry : Registry) (name : String) (enabled : Bool) :
    Except RegistryError Registry :=
  match registry.find? name with
  | none => .error (.notFound name)
  | some found => .ok ⟨registry.entries.put (Text.lower name) { found with enabled }⟩

/-- Enables or disables a connector, where a lock may forbid it. -/
def setEnabledUnder (registry : Registry) (lock? : Option String) (name : String)
    (enabled : Bool) : Except RegistryError Registry :=
  match lock? with
  | some reason => .error (.immutable name reason)
  | none => registry.setEnabled name enabled

def enabled? (registry : Registry) (name : String) : Option Connector :=
  match registry.find? name with
  | some ⟨connector, true⟩ => some connector
  | _ => none

def allNames (registry : Registry) : List String :=
  registry.entries.keys

def enabledNames (registry : Registry) : List String :=
  NameMap.keys (registry.entries.filter fun entry => entry.2.enabled)

end Registry

end FederatedCatalog
