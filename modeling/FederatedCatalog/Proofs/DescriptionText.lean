import FederatedCatalog.Proofs.DescriptionOrder
import FederatedCatalog.Proofs.JsonCodec
import Mathlib.Data.List.Forall2

namespace FederatedCatalog

open Json

theorem Settings.ofJson_toJson [codec : JsonCodec] (lawful : codec.Lawful) (settings : Settings) :
    ofJson settings.toJson = some settings := by
  have fields : codec.fields? fieldNames settings.toJson = some [some (ofString settings.user),
      some (.bool settings.caseSensitive), some (ofNat settings.retryAttempts.toNat),
      some (ofNat settings.retryDelay.toNat), some (.bool settings.autoDisable)] :=
    lawful.fields?_ofMembers fieldNames (by decide : fieldNames.Nodup)
  have attempts : natUpTo? (UInt32.size - 1) (ofNat settings.retryAttempts.toNat) = _ :=
    natUpTo?_ofNat (Nat.le_pred_of_lt settings.retryAttempts.toNat_lt)
  have delay : natUpTo? (UInt64.size - 1) (ofNat settings.retryDelay.toNat) = _ :=
    natUpTo?_ofNat (Nat.le_pred_of_lt settings.retryDelay.toNat_lt)
  rw [ofJson, fields]
  simp only [orDefault, attempts, delay, Option.bind_eq_bind, Option.bind_some, ofString, string?,
    bool?, UInt32.ofNat_toNat, UInt64.ofNat_toNat]
  rfl

theorem Settings.simple_toJson (settings : Settings) : settings.toJson.Simple := by
  have attempts : settings.retryAttempts.toNat < UInt64.size :=
    Nat.lt_trans settings.retryAttempts.toNat_lt (by decide)
  apply Simple.object
  simp only [List.forall_mem_cons]
  exact ⟨.string _, .bool _, .number attempts, .number settings.retryDelay.toNat_lt, .bool _,
    by simp⟩

namespace AliasSet

/-- A set with the same aliases as another, listed in an order of their own. -/
structure Lists (listing set : AliasSet) : Prop where
  shared : listing.shared.Perm set.shared
  owned : ∃ owners : List (String × NameMap String), owners.Perm set.owned ∧
    listing.owned.Forall₂ (fun a b => a.1 = b.1 ∧ a.2.Perm b.2) owners

variable {listing set : AliasSet}

theorem nameMap?_mapToJson (map : NameMap String) :
    nameMap? string? (mapToJson map) = some (NameMap.ofList map) :=
  nameMap?_entries ofString fun _ _ => rfl

theorem ofList_owners {owned owners : List (String × NameMap String)}
    (each : ∀ entry ∈ owners, NameMap.Sorted entry.2)
    (lists : owned.Forall₂ (fun a b => a.1 = b.1 ∧ a.2.Perm b.2) owners) :
    (owned.map fun (user, map) => (user, NameMap.ofList map)) = owners := by
  induction lists with
  | nil => rfl
  | @cons first first' rest rest' same _ ih =>
    obtain ⟨user, aliases⟩ := first
    obtain ⟨user', aliases'⟩ := first'
    obtain ⟨rfl, perm⟩ : user = user' ∧ aliases.Perm aliases' := same
    obtain ⟨sorted, others⟩ := List.forall_mem_cons.mp each
    rw [List.map_cons, ih others]
    show (user, NameMap.ofList aliases) :: rest' = _
    rw [NameMap.ofList_of_perm sorted perm]

theorem ofJson_toJson [codec : JsonCodec] (lawful : codec.Lawful) (ordered : set.Ordered)
    (lists : listing.Lists set) : ofJson listing.toJson = some set := by
  have fields : codec.fields? ["public", "users"] listing.toJson =
      some [some (mapToJson listing.shared),
        some (ofMembers (listing.owned.map fun (user, map) => (user, mapToJson map)))] :=
    lawful.fields?_ofMembers _ (by decide : ["public", "users"].Nodup)
  have shared : NameMap.ofList listing.shared = set.shared :=
    NameMap.ofList_of_perm ordered.shared lists.shared
  obtain ⟨owners, perm, each⟩ := lists.owned
  have sorted : ∀ entry ∈ owners, NameMap.Sorted entry.2 := fun entry hm =>
    ordered.each entry (perm.mem_iff.mp hm)
  have owned : nameMap? (nameMap? string?)
      (ofMembers (listing.owned.map fun (user, map) => (user, mapToJson map))) =
      some set.owned := by
    rw [nameMap?_ofMembers mapToJson NameMap.ofList fun entry _ => nameMap?_mapToJson entry.2,
      ofList_owners sorted each, NameMap.ofList_of_perm ordered.owned perm]
  rw [ofJson, fields]
  simp only [orDefault, nameMap?_mapToJson, shared, owned, Option.bind_eq_bind, Option.bind_some]
  rfl

theorem simple_mapToJson (map : NameMap String) : (mapToJson map).Simple :=
  simple_entries fun entry _ => .string entry.2

theorem simple_toJson (set : AliasSet) : set.toJson.Simple := by
  have owned : Simple (ofMembers (set.owned.map fun (user, map) => (user, mapToJson map))) :=
    simple_entries fun entry _ => simple_mapToJson entry.2
  apply Simple.object
  simp only [List.forall_mem_cons]
  exact ⟨simple_mapToJson set.shared, owned, by simp⟩

end AliasSet

namespace Aliases

variable {listing aliases : Aliases}

theorem ofJson_toJson [codec : JsonCodec] (lawful : codec.Lawful) (ordered : aliases.Ordered)
    (lists : ∀ kind, (listing.ofKind kind).Lists (aliases.ofKind kind)) :
    ofJson listing.toJson = some aliases := by
  have fields : codec.fields? ["namespace", "table"] listing.toJson =
      some [some listing.namespaces.toJson, some listing.tables.toJson] :=
    lawful.fields?_ofMembers _ (by decide : ["namespace", "table"].Nodup)
  have namespaces : AliasSet.ofJson listing.namespaces.toJson = some aliases.namespaces :=
    AliasSet.ofJson_toJson lawful (ordered .namespaces) (lists .namespaces)
  have tables : AliasSet.ofJson listing.tables.toJson = some aliases.tables :=
    AliasSet.ofJson_toJson lawful (ordered .tables) (lists .tables)
  rw [ofJson, fields]
  simp only [orDefault, namespaces, tables, Option.bind_eq_bind, Option.bind_some]
  rfl

theorem simple_toJson (aliases : Aliases) : aliases.toJson.Simple := by
  apply Simple.object
  simp only [List.forall_mem_cons]
  exact ⟨aliases.namespaces.simple_toJson, aliases.tables.simple_toJson, by simp⟩

end Aliases

theorem TableDescription.ofJson_toJson [codec : JsonCodec] (lawful : codec.Lawful)
    (table : TableDescription) : ofJson table.toJson = some table := by
  have fields : codec.fields? ["columns", "view"] table.toJson =
      some [some (ofStrings table.columns), some (ofOption table.view?)] :=
    lawful.fields?_ofMembers _ (by decide : ["columns", "view"].Nodup)
  rw [ofJson, fields]
  simp only [orDefault, strings?_ofStrings, optionalString?_ofOption, Option.bind_eq_bind,
    Option.bind_some]
  rfl

theorem TableDescription.simple_toJson (table : TableDescription) : table.toJson.Simple := by
  apply Simple.object
  simp only [List.forall_mem_cons]
  exact ⟨simple_ofStrings table.columns, simple_ofOption table.view?, by simp⟩

namespace SchemaDescription

variable {schema : SchemaDescription}

theorem schemaMembers_eq_map (schemas : List (String × SchemaDescription)) :
    schemaMembers schemas = schemas.map fun (name, schema) => (name, schema.toJson) := by
  induction schemas with
  | nil => rfl
  | cons entry rest ih =>
    rw [schemaMembers, ih]
    rfl

theorem nameMap?_tablesToJson [codec : JsonCodec] (lawful : codec.Lawful)
    {tables : NameMap TableDescription} (sorted : tables.Sorted) :
    nameMap? TableDescription.ofJson (tablesToJson tables) = some tables := by
  rw [tablesToJson,
    nameMap?_entries TableDescription.toJson fun entry _ => entry.2.ofJson_toJson lawful,
    NameMap.ofList_of_perm sorted (.refl tables)]

theorem ofFields_written [codec : JsonCodec] (lawful : codec.Lawful)
    {inner : Json → Option SchemaDescription} {schemas : NameMap SchemaDescription}
    {tables : NameMap TableDescription} (foreignType? : Option String)
    (schemasSorted : schemas.Sorted) (tablesSorted : tables.Sorted)
    (decodes : ∀ entry ∈ schemas, inner entry.2.toJson = some entry.2) :
    ofFields inner (some (ofMembers (schemaMembers schemas))) (some (tablesToJson tables))
      (some (ofOption foreignType?)) = some ⟨schemas, tables, foreignType?⟩ := by
  have read : nameMap? inner (ofMembers (schemaMembers schemas)) = some schemas := by
    rw [schemaMembers_eq_map, nameMap?_entries toJson decodes,
      NameMap.ofList_of_perm schemasSorted (.refl schemas)]
  simp only [ofFields, orDefault, read, nameMap?_tablesToJson lawful tablesSorted,
    optionalString?_ofOption, Option.bind_eq_bind, Option.bind_some]
  rfl

theorem depth_lt_members {entry : String × SchemaDescription}
    {schemas : List (String × SchemaDescription)} (hm : entry ∈ schemas) :
    entry.2.toJson.depth < (ofMembers (schemaMembers schemas)).depth := by
  rw [schemaMembers_eq_map]
  exact depth_lt_entries toJson hm

theorem ofJson_toJson [codec : JsonCodec] (lawful : codec.Lawful) (ordered : schema.Ordered)
    {depth : Nat} (shallow : schema.toJson.depth ≤ depth) :
    ofJson depth schema.toJson = some schema := by
  induction depth generalizing schema with
  | zero => exact absurd shallow (Nat.not_succ_le_zero _)
  | succ depth ih =>
    cases ordered with
    | @mk schemas tables foreignType? schemasSorted tablesSorted inside =>
      have fields : codec.fields? fieldNames (toJson ⟨schemas, tables, foreignType?⟩) =
          some [some (ofMembers (schemaMembers schemas)), some (tablesToJson tables),
            some (ofOption foreignType?)] :=
        lawful.fields?_ofMembers _ (by decide : fieldNames.Nodup)
      have member : ("schemas", ofMembers (schemaMembers schemas)) ∈
          members ⟨schemas, tables, foreignType?⟩ := List.mem_cons_self
      have outer : (ofMembers (schemaMembers schemas)).depth <
          (toJson ⟨schemas, tables, foreignType?⟩).depth := depth_lt_ofMembers member
      rw [ofJson, fields]
      refine ofFields_written lawful foreignType? schemasSorted tablesSorted fun entry hm => ?_
      have inner := depth_lt_members hm
      exact ih (inside entry hm) (by omega)

theorem simple_members (ordered : schema.Ordered) :
    ∀ member ∈ schema.members, member.2.Simple := by
  induction ordered with
  | @mk schemas tables foreignType? _ _ _ ih =>
    have inner : Simple (ofMembers (schemaMembers schemas)) := by
      rw [schemaMembers_eq_map]
      exact simple_entries fun entry hm => .object (ih entry hm)
    have own : Simple (tablesToJson tables) := simple_entries fun entry _ => entry.2.simple_toJson
    simp only [members, List.forall_mem_cons]
    exact ⟨inner, own, simple_ofOption foreignType?, by simp⟩

end SchemaDescription

namespace ConnectorDescription

variable {connector : ConnectorDescription}

theorem simple_toJson (ordered : connector.schema.Ordered) : connector.toJson.Simple := by
  have times : connector.failTimes.toNat < UInt64.size :=
    Nat.lt_trans connector.failTimes.toNat_lt (by decide)
  apply Simple.object
  rw [List.forall_mem_append]
  refine ⟨?_, SchemaDescription.simple_members ordered⟩
  simp only [List.forall_mem_cons]
  exact ⟨.bool _, .number times, simple_ofOption connector.failure?, by simp⟩

theorem ofJson_toJson [codec : JsonCodec] (lawful : codec.Lawful)
    (ordered : connector.schema.Ordered) {depth : Nat} (shallow : connector.toJson.depth ≤ depth) :
    ofJson depth connector.toJson = some connector := by
  have admitted : codec.admits depth connector.toJson = true :=
    lawful.admits_simple (simple_toJson ordered) shallow
  obtain ⟨enabled, failTimes, failure?, schema⟩ := connector
  cases ordered with
  | @mk schemas tables foreignType? schemasSorted tablesSorted inside =>
    have fields : codec.fields? fieldNames
        (toJson ⟨enabled, failTimes, failure?, ⟨schemas, tables, foreignType?⟩⟩) =
          some [some (.bool enabled), some (ofNat failTimes.toNat), some (ofOption failure?),
            some (ofMembers (SchemaDescription.schemaMembers schemas)),
            some (SchemaDescription.tablesToJson tables), some (ofOption foreignType?)] :=
      lawful.fields?_ofMembers _ (by decide : fieldNames.Nodup)
    have times : natUpTo? (UInt32.size - 1) (ofNat failTimes.toNat) = _ :=
      natUpTo?_ofNat (Nat.le_pred_of_lt failTimes.toNat_lt)
    have member : ("schemas", ofMembers (SchemaDescription.schemaMembers schemas)) ∈
        SchemaDescription.members ⟨schemas, tables, foreignType?⟩ := List.mem_cons_self
    have outer : (ofMembers (SchemaDescription.schemaMembers schemas)).depth <
        (toJson ⟨enabled, failTimes, failure?, ⟨schemas, tables, foreignType?⟩⟩).depth :=
      depth_lt_ofMembers (List.mem_append_right _ member)
    have decodes : ∀ entry ∈ schemas,
        SchemaDescription.ofJson depth entry.2.toJson = some entry.2 := by
      intro entry hm
      have inner := SchemaDescription.depth_lt_members hm
      exact SchemaDescription.ofJson_toJson lawful (inside entry hm) (by omega)
    have read := SchemaDescription.ofFields_written lawful foreignType? schemasSorted tablesSorted
      decodes
    show (if codec.admits depth (toJson _) then _ else none) = _
    rw [if_pos admitted, fields]
    simp only [orDefault, bool?, times, optionalString?_ofOption, read, Option.bind_eq_bind,
      Option.bind_some, UInt32.ofNat_toNat]
    rfl

end ConnectorDescription

namespace CatalogDescription

def connectorsToJson (connectors : NameMap ConnectorDescription) : Json :=
  ofMembers (connectors.map fun (name, connector) => (name, connector.toJson))

theorem toJson_eq (description : CatalogDescription) : description.toJson =
    ofMembers [("config", description.settings.toJson),
      ("connectors", connectorsToJson description.connectors),
      ("aliases", description.aliases.toJson)] :=
  rfl

/-- A description that says the same as another, with aliases listed in an order of their own. -/
structure Lists (listing description : CatalogDescription) : Prop where
  settings : listing.settings = description.settings
  connectors : listing.connectors = description.connectors
  aliases : ∀ kind, (listing.aliases.ofKind kind).Lists (description.aliases.ofKind kind)

variable {listing description : CatalogDescription}

theorem simple_toJson (schemas : ∀ entry ∈ description.connectors, entry.2.schema.Ordered) :
    description.toJson.Simple := by
  have connectors : (connectorsToJson description.connectors).Simple :=
    simple_entries fun entry hm => ConnectorDescription.simple_toJson (schemas entry hm)
  rw [toJson_eq]
  apply Simple.object
  simp only [List.forall_mem_cons]
  exact ⟨description.settings.simple_toJson, connectors, description.aliases.simple_toJson,
    by simp⟩

theorem nameMap?_connectorsToJson [codec : JsonCodec] (lawful : codec.Lawful)
    (ordered : description.Ordered)
    (shallow : (connectorsToJson description.connectors).depth ≤ nestingLimit - 1) :
    nameMap? (ConnectorDescription.ofJson (nestingLimit - 2))
      (connectorsToJson description.connectors) = some description.connectors := by
  have decodes : ∀ entry ∈ description.connectors,
      ConnectorDescription.ofJson (nestingLimit - 2) entry.2.toJson = some entry.2 := by
    intro entry hm
    have inner : entry.2.toJson.depth < (connectorsToJson description.connectors).depth :=
      depth_lt_entries ConnectorDescription.toJson hm
    exact ConnectorDescription.ofJson_toJson lawful (ordered.schemas entry hm) (by omega)
  rw [connectorsToJson, nameMap?_entries ConnectorDescription.toJson decodes,
    NameMap.ofList_of_perm ordered.connectors (.refl description.connectors)]

theorem ofJson_toJson [codec : JsonCodec] (lawful : codec.Lawful) (ordered : description.Ordered)
    (lists : listing.Lists description)
    (shallow : listing.toJson.depth ≤ nestingLimit) :
    ofJson listing.toJson = some description := by
  have fields : codec.fields? ["config", "connectors", "aliases"] listing.toJson =
      some [some listing.settings.toJson, some (connectorsToJson listing.connectors),
        some listing.aliases.toJson] :=
    lawful.fields?_ofMembers _ (by decide : ["config", "connectors", "aliases"].Nodup)
  have outer : (connectorsToJson listing.connectors).depth < listing.toJson.depth :=
    depth_lt_ofMembers (List.mem_cons_of_mem ("config", _) List.mem_cons_self)
  rw [lists.connectors] at outer
  have connectors := nameMap?_connectorsToJson lawful ordered (by omega)
  have aliases := Aliases.ofJson_toJson lawful ordered.aliases lists.aliases
  rw [ofJson, fields, lists.settings, lists.connectors]
  simp only [orDefault, Settings.ofJson_toJson lawful, connectors, aliases, Option.bind_eq_bind,
    Option.bind_some]
  rfl

/-- A description is read back from its text, unless that is nested too deep. -/
theorem parse_text [codec : JsonCodec] (lawful : codec.Lawful) (ordered : description.Ordered)
    (lists : listing.Lists description) (shallow : listing.toJson.depth ≤ codec.nestingLimit) :
    parse listing.text = some description := by
  have simple : listing.toJson.Simple := simple_toJson (lists.connectors ▸ ordered.schemas)
  rw [parse, text, lawful.read_write simple, Option.bind_some]
  exact ofJson_toJson lawful ordered lists shallow

/-- Settings at the ends of their ranges, a view in a foreign schema, and public aliases in a given
order. -/
def warehouse (shared : NameMap String) : CatalogDescription where
  settings := ⟨"Zoë", true, .ofNat (UInt32.size - 1), .ofNat (UInt64.size - 1), true⟩
  connectors := [("dfs", ⟨false, 0, some "no \"route\"\n",
    ⟨[("tmp", ⟨[], [("recent", ⟨["id", "day"], some "select 1"⟩)], some "parquet"⟩)], [], none⟩⟩)]
  aliases := ⟨⟨shared, [("bob", [])]⟩, .empty⟩

theorem warehouse_read : (warehouse [("old", "dfs"), ("new", "dfs.tmp")]).toJson.depth = 8 ∧
    parse (warehouse [("old", "dfs"), ("new", "dfs.tmp")]).text =
      some (warehouse [("new", "dfs.tmp"), ("old", "dfs")]) := by
  have schemas : ∀ entry ∈ (warehouse [("new", "dfs.tmp"), ("old", "dfs")]).connectors,
      entry.2.schema.Ordered := by
    intro entry hm
    obtain rfl := List.mem_singleton.mp hm
    refine .mk none (List.pairwise_singleton _ _) .nil fun entry hm => ?_
    obtain rfl := List.mem_singleton.mp hm
    exact .mk (some "parquet") .nil (List.pairwise_singleton _ _) (by simp)
  have shared : NameMap.Sorted [("new", "dfs.tmp"), ("old", "dfs")] := by
    unfold NameMap.Sorted
    decide
  have aliases : (warehouse [("new", "dfs.tmp"), ("old", "dfs")]).aliases.Ordered := by
    intro kind
    cases kind with
    | namespaces =>
      refine ⟨shared, List.pairwise_singleton _ _, fun entry hm => ?_⟩
      obtain rfl := List.mem_singleton.mp hm
      exact .nil
    | tables => exact AliasSet.ordered_empty
  have lists : (warehouse [("old", "dfs"), ("new", "dfs.tmp")]).Lists
      (warehouse [("new", "dfs.tmp"), ("old", "dfs")]) := by
    refine ⟨rfl, rfl, fun kind => ?_⟩
    cases kind with
    | namespaces => exact ⟨.swap _ _ [], _, .refl _, .cons ⟨rfl, .refl _⟩ .nil⟩
    | tables => exact ⟨.nil, [], .nil, .nil⟩
  refine ⟨by decide +kernel, ?_⟩
  exact parse_text JsonCodec.standard_lawful ⟨List.pairwise_singleton _ _, schemas, aliases⟩ lists
    (by decide +kernel)

end CatalogDescription

end FederatedCatalog
