import FederatedCatalog.Description.Format
import FederatedCatalog.Proofs.AliasMap
import FederatedCatalog.Proofs.JsonFields

namespace FederatedCatalog

open Json

variable [codec : JsonCodec]

theorem AliasSet.ordered_of_ofJson {json : Json} {set : AliasSet} (read : ofJson json = some set) :
    set.Ordered := by
  unfold ofJson at read
  split at read
  next =>
    obtain ⟨shared, hshared, read⟩ := Option.bind_eq_some_iff.mp read
    obtain ⟨owned, howned, read⟩ := Option.bind_eq_some_iff.mp read
    cases read
    exact ⟨sorted_of_field hshared, sorted_of_field howned,
      forall_of_field howned fun _ _ => sorted_of_nameMap?⟩
  next => cases read

theorem Aliases.ordered_of_ofJson {json : Json} {aliases : Aliases}
    (read : ofJson json = some aliases) : aliases.Ordered := by
  unfold ofJson at read
  split at read
  next =>
    obtain ⟨namespaces, hnamespaces, read⟩ := Option.bind_eq_some_iff.mp read
    obtain ⟨tables, htables, read⟩ := Option.bind_eq_some_iff.mp read
    cases read
    intro kind
    cases kind with
    | namespaces =>
      exact orDefault_of hnamespaces AliasSet.ordered_empty fun _ => AliasSet.ordered_of_ofJson
    | tables =>
      exact orDefault_of htables AliasSet.ordered_empty fun _ => AliasSet.ordered_of_ofJson
  next => cases read

namespace SchemaDescription

/-- Whether the maps of a schema are in order, and those of every schema inside it. -/
inductive Ordered : SchemaDescription → Prop
  | mk {schemas : NameMap SchemaDescription} {tables : NameMap TableDescription}
    (foreignType? : Option String) (schemasSorted : schemas.Sorted) (tablesSorted : tables.Sorted)
    (inside : ∀ entry ∈ schemas, Ordered entry.2) : Ordered ⟨schemas, tables, foreignType?⟩

variable {schema : SchemaDescription}

theorem ordered_of_ofFields {inner : Json → Option SchemaDescription}
    (inside : ∀ json schema, inner json = some schema → schema.Ordered)
    {schemas tables foreignType : Option Json}
    (read : ofFields inner schemas tables foreignType = some schema) : schema.Ordered := by
  obtain ⟨schemaMap, hschemas, read⟩ := Option.bind_eq_some_iff.mp read
  obtain ⟨tableMap, htables, read⟩ := Option.bind_eq_some_iff.mp read
  obtain ⟨foreignType?, _, read⟩ := Option.bind_eq_some_iff.mp read
  cases read
  exact .mk foreignType? (sorted_of_field hschemas) (sorted_of_field htables)
    (forall_of_field hschemas inside)

theorem ordered_of_ofJson {depth : Nat} {json : Json} (read : ofJson depth json = some schema) :
    schema.Ordered := by
  induction depth generalizing json schema with
  | zero => cases read
  | succ depth ih =>
    unfold ofJson at read
    split at read
    next => exact ordered_of_ofFields (fun _ _ => ih) read
    next => cases read

end SchemaDescription

theorem ConnectorDescription.read_of_ofJson {depth : Nat} {json : Json}
    {connector : ConnectorDescription} (read : ofJson depth json = some connector) :
    codec.admits depth json = true ∧ ∃ fields schemas tables foreignType,
      codec.fields? fieldNames json = some fields ∧ schemas ∈ fields ∧ tables ∈ fields ∧
      SchemaDescription.ofFields (SchemaDescription.ofJson depth) schemas tables foreignType =
        some connector.schema := by
  unfold ofJson at read
  split at read
  next =>
    split at read
    next admitted =>
      split at read
      next hfields =>
        obtain ⟨enabled, _, read⟩ := Option.bind_eq_some_iff.mp read
        obtain ⟨failTimes, _, read⟩ := Option.bind_eq_some_iff.mp read
        obtain ⟨failure?, _, read⟩ := Option.bind_eq_some_iff.mp read
        obtain ⟨schema, hschema, read⟩ := Option.bind_eq_some_iff.mp read
        cases read
        exact ⟨admitted, _, _, _, _, hfields, by simp, by simp, hschema⟩
      next => cases read
    next => cases read
  next => cases read

theorem ConnectorDescription.ordered_of_ofJson {depth : Nat} {json : Json}
    {connector : ConnectorDescription} (read : ofJson depth json = some connector) :
    connector.schema.Ordered := by
  obtain ⟨_, _, _, _, _, _, _, _, hschema⟩ := read_of_ofJson read
  exact SchemaDescription.ordered_of_ofFields
    (fun _ _ => SchemaDescription.ordered_of_ofJson) hschema

namespace CatalogDescription

/-- Whether the maps of a description are in order. -/
structure Ordered (description : CatalogDescription) : Prop where
  connectors : description.connectors.Sorted
  schemas : ∀ entry ∈ description.connectors, entry.2.schema.Ordered
  aliases : description.aliases.Ordered

variable {description : CatalogDescription}

theorem ordered_of_ofJson {json : Json} (read : ofJson json = some description) :
    description.Ordered := by
  unfold ofJson at read
  split at read
  next =>
    obtain ⟨settings, _, read⟩ := Option.bind_eq_some_iff.mp read
    obtain ⟨connectors, hconnectors, read⟩ := Option.bind_eq_some_iff.mp read
    obtain ⟨aliases, haliases, read⟩ := Option.bind_eq_some_iff.mp read
    cases read
    have inside : ∀ json (connector : ConnectorDescription),
        ConnectorDescription.ofJson (nestingLimit - 2) json = some connector →
        connector.schema.Ordered := fun _ _ => ConnectorDescription.ordered_of_ofJson
    exact ⟨sorted_of_field hconnectors, forall_of_field hconnectors inside,
      orDefault_of haliases Aliases.ordered_empty fun _ => Aliases.ordered_of_ofJson⟩
  next => cases read

/-- Whatever description is read, its maps are in order. -/
theorem ordered_of_parse {text : String} (read : parse text = some description) :
    description.Ordered := by
  obtain ⟨json, _, decoded⟩ := Option.bind_eq_some_iff.mp read
  exact ordered_of_ofJson decoded

end CatalogDescription

end FederatedCatalog
