import FederatedCatalog.Description.Basic
import FederatedCatalog.Json.Codec

namespace FederatedCatalog

open Json

variable [JsonCodec]

namespace Settings

def fieldNames : List String :=
  ["user", "case_sensitive", retryAttemptsOption, retryDelayOption, autoDisableOption]

def ofJson (json : Json) : Option Settings :=
  match JsonCodec.fields? fieldNames json with
  | some [user, caseSensitive, retryAttempts, retryDelay, autoDisable] => do
    let user ← orDefault interactive.user string? user
    let caseSensitive ← orDefault interactive.caseSensitive bool? caseSensitive
    let retryAttempts ← orDefault interactive.retryAttempts.toNat
      (natUpTo? (UInt32.size - 1)) retryAttempts
    let retryDelay ← orDefault interactive.retryDelay.toNat (natUpTo? (UInt64.size - 1)) retryDelay
    let autoDisable ← orDefault interactive.autoDisable bool? autoDisable
    return ⟨user, caseSensitive, .ofNat retryAttempts, .ofNat retryDelay, autoDisable⟩
  | _ => none

def toJson (settings : Settings) : Json :=
  ofMembers
    [("user", ofString settings.user),
      ("case_sensitive", .bool settings.caseSensitive),
      (retryAttemptsOption, ofNat settings.retryAttempts.toNat),
      (retryDelayOption, ofNat settings.retryDelay.toNat),
      (autoDisableOption, .bool settings.autoDisable)]

def parse (text : String) : Option Settings :=
  (JsonCodec.read text).bind ofJson

end Settings

namespace AliasSet

def ofJson (json : Json) : Option AliasSet :=
  match JsonCodec.fields? ["public", "users"] json with
  | some [shared, owned] => do
    let shared ← orDefault [] (nameMap? string?) shared
    let owned ← orDefault [] (nameMap? (nameMap? string?)) owned
    return ⟨shared, owned⟩
  | _ => none

def mapToJson (map : NameMap String) : Json :=
  ofMembers (map.map fun (name, target) => (name, ofString target))

def toJson (set : AliasSet) : Json :=
  ofMembers
    [("public", mapToJson set.shared),
      ("users", ofMembers (set.owned.map fun (user, map) => (user, mapToJson map)))]

end AliasSet

namespace Aliases

def ofJson (json : Json) : Option Aliases :=
  match JsonCodec.fields? ["namespace", "table"] json with
  | some [namespaces, tables] => do
    let namespaces ← orDefault .empty AliasSet.ofJson namespaces
    let tables ← orDefault .empty AliasSet.ofJson tables
    return ⟨namespaces, tables⟩
  | _ => none

def toJson (aliases : Aliases) : Json :=
  ofMembers [("namespace", aliases.namespaces.toJson), ("table", aliases.tables.toJson)]

def parse (text : String) : Option Aliases :=
  (JsonCodec.read text).bind ofJson

end Aliases

namespace TableDescription

def ofJson (json : Json) : Option TableDescription :=
  match JsonCodec.fields? ["columns", "view"] json with
  | some [columns, view] => do
    let columns ← orDefault [] strings? columns
    let view? ← orDefault none optionalString? view
    return ⟨columns, view?⟩
  | _ => none

def toJson (table : TableDescription) : Json :=
  ofMembers [("columns", ofStrings table.columns), ("view", ofOption table.view?)]

end TableDescription

namespace SchemaDescription

def fieldNames : List String :=
  ["schemas", "tables", "opaque"]

/-- A schema from its fields, where `inner` reads the schemas inside it. -/
def ofFields (inner : Json → Option SchemaDescription) (schemas tables foreignType : Option Json) :
    Option SchemaDescription := do
  let schemas ← orDefault [] (nameMap? inner) schemas
  let tables ← orDefault [] (nameMap? TableDescription.ofJson) tables
  let foreignType? ← orDefault none optionalString? foreignType
  return ⟨schemas, tables, foreignType?⟩

/-- A schema with others nested at most `depth` deep. -/
def ofJson : Nat → Json → Option SchemaDescription
  | 0, _ => none
  | depth + 1, json =>
    match JsonCodec.fields? fieldNames json with
    | some [schemas, tables, foreignType] => ofFields (ofJson depth) schemas tables foreignType
    | _ => none

def tablesToJson (tables : List (String × TableDescription)) : Json :=
  ofMembers (tables.map fun (name, table) => (name, table.toJson))

mutual

def members : SchemaDescription → List (String × Json)
  | ⟨schemas, tables, foreignType?⟩ =>
    [("schemas", ofMembers (schemaMembers schemas)), ("tables", tablesToJson tables),
      ("opaque", ofOption foreignType?)]

def schemaMembers : List (String × SchemaDescription) → List (String × Json)
  | [] => []
  | (name, schema) :: rest => (name, ofMembers (members schema)) :: schemaMembers rest

end

def toJson (schema : SchemaDescription) : Json :=
  ofMembers schema.members

end SchemaDescription

namespace ConnectorDescription

def fieldNames : List String :=
  ["enabled", "fail_times", "failure"] ++ SchemaDescription.fieldNames

/-- A connector's fields stand beside those of its schema. It must be written as an object that
can be taken whole, whether all that is in it is of use or not. -/
def ofJson (depth : Nat) (json : Json) : Option ConnectorDescription :=
  match json with
  | .object _ =>
    if JsonCodec.admits depth json then
      match JsonCodec.fields? fieldNames json with
      | some [enabled, failTimes, failure, schemas, tables, foreignType] => do
        let enabled ← orDefault true bool? enabled
        let failTimes ← orDefault 0 (natUpTo? (UInt32.size - 1)) failTimes
        let failure? ← orDefault none optionalString? failure
        let schema ← SchemaDescription.ofFields (SchemaDescription.ofJson depth) schemas tables
          foreignType
        return ⟨enabled, .ofNat failTimes, failure?, schema⟩
      | _ => none
    else none
  | _ => none

def toJson (connector : ConnectorDescription) : Json :=
  ofMembers
    ([("enabled", .bool connector.enabled),
      ("fail_times", ofNat connector.failTimes.toNat),
      ("failure", ofOption connector.failure?)] ++ connector.schema.members)

end ConnectorDescription

namespace CatalogDescription

/-- A catalog, with two levels of nesting above each connector. -/
def ofJson (json : Json) : Option CatalogDescription :=
  match JsonCodec.fields? ["config", "connectors", "aliases"] json with
  | some [settings, connectors, aliases] => do
    let settings ← orDefault .interactive Settings.ofJson settings
    let connectors ← orDefault []
      (nameMap? (ConnectorDescription.ofJson (nestingLimit - 2))) connectors
    let aliases ← orDefault .empty Aliases.ofJson aliases
    return ⟨settings, connectors, aliases⟩
  | _ => none

def toJson (description : CatalogDescription) : Json :=
  ofMembers
    [("config", description.settings.toJson),
      ("connectors",
        ofMembers (description.connectors.map fun (name, connector) => (name, connector.toJson))),
      ("aliases", description.aliases.toJson)]

def parse (text : String) : Option CatalogDescription :=
  (JsonCodec.read text).bind ofJson

/-- The text of a description, which spells it. -/
def text (description : CatalogDescription) : String :=
  JsonCodec.write description.toJson

/-- The description that a file holds, if there is a file. -/
def load (file? : Option ByteArray) : Except DescriptionError CatalogDescription :=
  match file?.bind String.fromUTF8? with
  | none => .error .unreadable
  | some text =>
    match parse text with
    | none => .error .malformed
    | some description => .ok description

end CatalogDescription

end FederatedCatalog
