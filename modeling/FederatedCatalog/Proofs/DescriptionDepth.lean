import FederatedCatalog.Proofs.DescriptionText

namespace FederatedCatalog

open Json

namespace Json

theorem depth_ofMembers_le {limit : Nat} {members : List (String × Json)} :
    (ofMembers members).depth ≤ limit + 1 ↔ ∀ member ∈ members, member.2.depth ≤ limit := by
  rw [ofMembers, depth, Nat.add_le_add_iff_right, membersDepth_le, List.forall_mem_map]

theorem depth_ofOption (string? : Option String) : (ofOption string?).depth = 0 := by
  cases string? <;> rfl

theorem depth_ofStrings (strings : List String) : (ofStrings strings).depth = 1 := by
  have flat : itemsDepth (strings.map ofString) ≤ 0 :=
    itemsDepth_le.mpr fun item hm => by
      obtain ⟨s, _, rfl⟩ := List.mem_map.mp hm
      exact Nat.le_refl 0
  rw [ofStrings, depth, Nat.le_zero.mp flat]

theorem simple_single (name : String) {json : Json} (h : json.Simple) :
    Simple (ofMembers [(name, json)]) :=
  .object fun member hm => by
    rw [List.mem_singleton.mp hm]
    exact h

theorem nameMap?_single {α : Type} {decode : Json → Option α} {json : Json} {a : α} (name : String)
    (h : decode json = some a) : nameMap? decode (ofMembers [(name, json)]) = some [(name, a)] := by
  rw [nameMap?, members?_ofMembers]
  simp [h, NameMap.ofList, NameMap.putAll, NameMap.put]

end Json

theorem TableDescription.depth_toJson (table : TableDescription) : table.toJson.depth = 2 := by
  simp [toJson, ofMembers, depth, membersDepth, depth_ofStrings, depth_ofOption]

theorem TableDescription.depth_pos_of_ofJson [codec : JsonCodec] (lawful : codec.Lawful)
    {json : Json} {table : TableDescription} (read : ofJson json = some table) :
    0 < json.depth := by
  unfold ofJson at read
  split at read
  next fields => exact lawful.depth_pos_of_fields? fields
  next => cases read

namespace SchemaDescription

theorem depth_tablesToJson_le {tables : List (String × TableDescription)} {limit : Nat} :
    (tablesToJson tables).depth ≤ limit + 1 ↔ (tables ≠ [] → 2 ≤ limit) := by
  rw [tablesToJson, depth_ofMembers_le, List.forall_mem_map]
  simp only [TableDescription.depth_toJson]
  constructor
  · intro h some
    obtain ⟨entry, hm⟩ := List.exists_mem_of_ne_nil tables some
    exact h entry hm
  · exact fun h entry hm => h (List.ne_nil_of_mem hm)

theorem depth_toJson_le_add_two {schema : SchemaDescription} {limit : Nat} :
    schema.toJson.depth ≤ limit + 2 ↔
      (schema.tables ≠ [] → 2 ≤ limit) ∧
        ∀ entry ∈ schema.schemas, entry.2.toJson.depth ≤ limit := by
  obtain ⟨schemas, tables, foreignType?⟩ := schema
  have inside : (ofMembers (schemaMembers schemas)).depth ≤ limit + 1 ↔
      ∀ entry ∈ schemas, entry.2.toJson.depth ≤ limit := by
    rw [schemaMembers_eq_map, depth_ofMembers_le, List.forall_mem_map]
  rw [toJson, members, depth_ofMembers_le]
  simp only [List.forall_mem_cons, depth_ofOption, inside, depth_tablesToJson_le]
  simp [and_comm]

theorem two_le_depth_toJson (schema : SchemaDescription) : 2 ≤ schema.toJson.depth := by
  obtain ⟨schemas, tables, foreignType?⟩ := schema
  have member : ("schemas", ofMembers (schemaMembers schemas)) ∈
      members ⟨schemas, tables, foreignType?⟩ := List.mem_cons_self
  have outer : (ofMembers (schemaMembers schemas)).depth <
      (toJson ⟨schemas, tables, foreignType?⟩).depth := depth_lt_ofMembers member
  exact Nat.lt_of_le_of_lt (Nat.succ_pos _) outer

/-- Which schemas lie how many levels below a schema. -/
inductive Below : Nat → SchemaDescription → SchemaDescription → Prop
  | self (schema : SchemaDescription) : Below 0 schema schema
  | inside {level : Nat} {outer inner : SchemaDescription} {entry : String × SchemaDescription}
      (hm : entry ∈ outer.schemas) (below : Below level entry.2 inner) :
      Below (level + 1) outer inner

theorem forall_below {schema : SchemaDescription} {P : Nat → SchemaDescription → Prop} :
    (∀ level inner, Below level schema inner → P level inner) ↔
      P 0 schema ∧
        ∀ entry ∈ schema.schemas, ∀ level inner, Below level entry.2 inner →
          P (level + 1) inner := by
  constructor
  · intro h
    exact ⟨h 0 schema (.self schema), fun entry hm level inner below =>
      h (level + 1) inner (.inside hm below)⟩
  · rintro ⟨own, others⟩ level inner below
    cases below with
    | self => exact own
    | inside hm below => exact others _ hm _ inner below

/-- A schema is written with two levels of nesting for itself and for each schema above it, and with
two more for its tables if it has any. -/
theorem depth_toJson_le {schema : SchemaDescription} {limit : Nat} :
    schema.toJson.depth ≤ limit ↔ ∀ level inner, Below level schema inner →
      2 * level + 2 ≤ limit ∧ (inner.tables ≠ [] → 2 * level + 4 ≤ limit) := by
  -- each schema on the way down takes two levels of the limit, so the induction is on that
  induction limit using Nat.strongRecOn generalizing schema with
  | ind limit ih =>
    by_cases room : 2 ≤ limit
    · obtain ⟨rest, rfl⟩ := Nat.exists_eq_add_of_le' room
      rw [depth_toJson_le_add_two, forall_below]
      refine and_congr (by simp) (forall₂_congr fun entry _ => ?_)
      rw [ih rest (by omega)]
      refine forall₃_congr fun level inner _ => ?_
      exact and_congr (by omega) (imp_congr_right fun _ => by omega)
    · have deep := schema.two_le_depth_toJson
      exact ⟨fun shallow => absurd (Nat.le_trans deep shallow) room,
        fun h => absurd (h 0 schema (.self schema)).1 room⟩

theorem depth_toJson_of_ofFields [codec : JsonCodec] (lawful : codec.Lawful)
    {decode : Json → Option SchemaDescription}
    {schemas tables foreignType : Option Json} {schema : SchemaDescription} {limit : Nat}
    (read : ofFields decode schemas tables foreignType = some schema)
    (shallow : ∀ field, some field = schemas ∨ some field = tables → field.depth ≤ limit)
    (inside : ∀ json inner, decode json = some inner → inner.toJson.depth ≤ json.depth + 1) :
    schema.toJson.depth ≤ limit + 2 := by
  obtain ⟨schemaMap, hschemas, read⟩ := Option.bind_eq_some_iff.mp read
  obtain ⟨tableMap, htables, read⟩ := Option.bind_eq_some_iff.mp read
  obtain ⟨foreignType?, _, read⟩ := Option.bind_eq_some_iff.mp read
  cases read
  refine depth_toJson_le_add_two.mpr ⟨fun some => ?_, fun entry hm => ?_⟩
  · obtain ⟨entry, hm⟩ := List.exists_mem_of_ne_nil tableMap some
    obtain ⟨json, inner, rfl, further, decoded⟩ := exists_of_field htables hm
    have := shallow json (.inr rfl)
    have := TableDescription.depth_pos_of_ofJson lawful decoded
    -- a table is written two levels deep, and what it was read from had one at least
    omega
  · obtain ⟨json, inner, rfl, further, decoded⟩ := exists_of_field hschemas hm
    have := shallow json (.inl rfl)
    have := inside inner entry.2 decoded
    omega

/-- With every default written out a schema takes at most one level more than it was read from. -/
theorem depth_toJson_of_ofJson [codec : JsonCodec] (lawful : codec.Lawful) {depth : Nat}
    {json : Json} {schema : SchemaDescription} (read : ofJson depth json = some schema) :
    schema.toJson.depth ≤ json.depth + 1 := by
  induction depth generalizing json schema with
  | zero => cases read
  | succ depth ih =>
    unfold ofJson at read
    split at read
    next schemas tables foreignType fields =>
      have own := lawful.depth_pos_of_fields? fields
      obtain ⟨limit, hlimit⟩ := Nat.exists_eq_add_one_of_ne_zero (Nat.ne_zero_of_lt own)
      rw [hlimit]
      refine depth_toJson_of_ofFields lawful read (fun field given => ?_) fun _ _ => ih
      have listed : some field ∈ [schemas, tables, foreignType] := by
        rcases given with rfl | rfl <;> simp
      have := lawful.depth_lt_of_fields? fields listed
      omega
    next => cases read

end SchemaDescription

namespace ConnectorDescription

theorem depth_toJson (connector : ConnectorDescription) :
    connector.toJson.depth = connector.schema.toJson.depth := by
  obtain ⟨enabled, failTimes, failure?, schema⟩ := connector
  simp [toJson, SchemaDescription.toJson, ofMembers, ofNat, depth, membersDepth, depth_ofOption]

theorem depth_toJson_of_ofJson [codec : JsonCodec] (lawful : codec.Lawful) {depth : Nat}
    {json : Json} {connector : ConnectorDescription} (read : ofJson depth json = some connector) :
    connector.toJson.depth ≤ depth + 1 := by
  obtain ⟨admitted, fields, schemas, tables, foreignType, hfields, hschemas, htables, hschema⟩ :=
    read_of_ofJson read
  have shallow := lawful.depth_le_of_admits admitted
  have own := lawful.depth_pos_of_fields? hfields
  obtain ⟨limit, rfl⟩ := Nat.exists_eq_add_one_of_ne_zero (by omega : depth ≠ 0)
  rw [depth_toJson]
  refine SchemaDescription.depth_toJson_of_ofFields lawful hschema (fun field given => ?_)
    fun _ _ => SchemaDescription.depth_toJson_of_ofJson lawful
  have listed : some field ∈ fields := by
    rcases given with rfl | rfl
    · exact hschemas
    · exact htables
  have := lawful.depth_lt_of_fields? hfields listed
  omega

end ConnectorDescription

theorem Settings.depth_toJson (settings : Settings) : settings.toJson.depth = 1 := by
  simp [toJson, ofMembers, ofString, ofNat, depth, membersDepth]

theorem AliasSet.depth_mapToJson (map : NameMap String) : (mapToJson map).depth ≤ 1 := by
  refine depth_ofMembers_le.mpr fun member hm => ?_
  obtain ⟨entry, _, rfl⟩ := List.mem_map.mp hm
  exact Nat.le_refl 0

theorem AliasSet.depth_toJson (set : AliasSet) : set.toJson.depth ≤ 3 := by
  refine depth_ofMembers_le.mpr ?_
  simp only [List.forall_mem_cons]
  refine ⟨Nat.le_succ_of_le (depth_mapToJson set.shared), ?_, by simp⟩
  refine depth_ofMembers_le.mpr fun member hm => ?_
  obtain ⟨entry, _, rfl⟩ := List.mem_map.mp hm
  exact depth_mapToJson entry.2

theorem Aliases.depth_toJson (aliases : Aliases) : aliases.toJson.depth ≤ 4 := by
  refine depth_ofMembers_le.mpr ?_
  simp only [List.forall_mem_cons]
  exact ⟨aliases.namespaces.depth_toJson, aliases.tables.depth_toJson, by simp⟩

namespace CatalogDescription

variable {description listing : CatalogDescription}

/-- Unless the limit is so low that settings and aliases do not fit, only connectors can be nested
too deep. -/
theorem depth_toJson_le {limit : Nat} (room : 3 ≤ limit) :
    description.toJson.depth ≤ limit + 2 ↔
      ∀ entry ∈ description.connectors, entry.2.toJson.depth ≤ limit := by
  have settings := description.settings.depth_toJson
  have aliases := description.aliases.depth_toJson
  have connectors : (connectorsToJson description.connectors).depth ≤ limit + 1 ↔
      ∀ entry ∈ description.connectors, entry.2.toJson.depth ≤ limit := by
    rw [connectorsToJson]
    exact depth_ofMembers_le.trans List.forall_mem_map
  rw [toJson_eq, depth_ofMembers_le]
  simp only [List.forall_mem_cons]
  constructor
  · exact fun shallow => connectors.mp shallow.2.1
  · exact fun shallow => ⟨by omega, connectors.mpr shallow, by omega, by simp⟩

theorem depth_of_ofJson [codec : JsonCodec] (lawful : codec.Lawful) {json : Json}
    (read : ofJson json = some description) :
    ∀ entry ∈ description.connectors, entry.2.toJson.depth ≤ codec.nestingLimit - 2 + 1 := by
  unfold ofJson at read
  split at read
  next =>
    obtain ⟨settings, _, read⟩ := Option.bind_eq_some_iff.mp read
    obtain ⟨connectors, hconnectors, read⟩ := Option.bind_eq_some_iff.mp read
    obtain ⟨aliases, _, read⟩ := Option.bind_eq_some_iff.mp read
    cases read
    have inside : ∀ json (connector : ConnectorDescription),
        ConnectorDescription.ofJson (nestingLimit - 2) json = some connector →
        connector.toJson.depth ≤ nestingLimit - 2 + 1 :=
      fun _ _ => ConnectorDescription.depth_toJson_of_ofJson lawful
    exact forall_of_field hconnectors inside
  next => cases read

theorem depth_of_nameMap? [codec : JsonCodec] (lawful : codec.Lawful)
    {connectors connectors' : NameMap ConnectorDescription} (read : nameMap?
      (ConnectorDescription.ofJson (nestingLimit - 2)) (connectorsToJson connectors) =
        some connectors') :
    ∀ entry ∈ connectors, entry.2.toJson.depth ≤ codec.nestingLimit - 2 := by
  intro entry hm
  rw [connectorsToJson, nameMap?, members?_ofMembers, Option.bind_some] at read
  obtain ⟨entries, hentries, _⟩ := Option.map_eq_some_iff.mp read
  obtain ⟨_, hentry⟩ := forall_of_mapM hentries (List.mem_map_of_mem hm)
  obtain ⟨connector, hconnector, _⟩ := Option.map_eq_some_iff.mp hentry
  exact lawful.depth_le_of_admits (ConnectorDescription.read_of_ofJson hconnector).1

theorem depth_of_ofJson_toJson [codec : JsonCodec] (lawful : codec.Lawful)
    (read : ofJson listing.toJson = some description) :
    ∀ entry ∈ listing.connectors, entry.2.toJson.depth ≤ codec.nestingLimit - 2 := by
  have fields : codec.fields? ["config", "connectors", "aliases"] listing.toJson =
      some [some listing.settings.toJson, some (connectorsToJson listing.connectors),
        some listing.aliases.toJson] :=
    lawful.fields?_ofMembers _ (by decide : ["config", "connectors", "aliases"].Nodup)
  rw [ofJson, fields] at read
  obtain ⟨settings, _, read⟩ := Option.bind_eq_some_iff.mp read
  obtain ⟨connectors, hconnectors, _⟩ := Option.bind_eq_some_iff.mp read
  exact depth_of_nameMap? lawful hconnectors

/-- Whether no schema lies more than `levels` levels below its connector's, and none with tables
more than one level less. -/
def Within (levels : Nat) (description : CatalogDescription) : Prop :=
  ∀ entry ∈ description.connectors, ∀ level inner,
    SchemaDescription.Below level entry.2.schema inner →
      level ≤ levels ∧ (inner.tables ≠ [] → level + 1 ≤ levels)

theorem within_iff {levels limit : Nat} (h : limit / 2 = levels + 1) :
    description.Within levels ↔
      ∀ entry ∈ description.connectors, entry.2.toJson.depth ≤ limit := by
  refine forall₂_congr fun entry _ => ?_
  rw [ConnectorDescription.depth_toJson, SchemaDescription.depth_toJson_le]
  refine forall₃_congr fun level inner _ => ?_
  exact and_congr (by omega) (imp_congr_right fun _ => by omega)

theorem within_of_parse [codec : JsonCodec] (lawful : codec.Lawful) {text : String}
    (read : parse text = some description) : description.Within 62 := by
  obtain ⟨json, _, decoded⟩ := Option.bind_eq_some_iff.mp read
  have shallow := depth_of_ofJson lawful decoded
  rw [lawful.nestingLimit_eq] at shallow
  exact (within_iff (by decide)).mpr shallow

theorem depth_toJson_iff_within : description.toJson.depth ≤ 127 ↔ description.Within 61 :=
  (depth_toJson_le (by decide)).trans (within_iff (by decide)).symm

theorem parse_text_eq [codec : JsonCodec] (lawful : codec.Lawful)
    (schemas : ∀ entry ∈ description.connectors, entry.2.schema.Ordered) :
    parse description.text = ofJson description.toJson := by
  rw [parse, text, lawful.read_write (simple_toJson schemas), Option.bind_some]

theorem parse_text_eq_none [codec : JsonCodec] (lawful : codec.Lawful)
    (schemas : ∀ entry ∈ description.connectors, entry.2.schema.Ordered)
    (deepest : ¬description.Within 61) : parse description.text = none := by
  rw [parse_text_eq lawful schemas, Option.eq_none_iff_forall_ne_some]
  intro other read
  have shallow := depth_of_ofJson_toJson lawful read
  rw [lawful.nestingLimit_eq] at shallow
  exact deepest ((within_iff (by decide)).mpr shallow)

/-- Every description that can be read has its schemas at most 62 levels below those of the
connectors, and its tables in schemas one level further up. It is read back from its own text if
nothing in it lies as deep as that; if something does, its text is nested too deep to be read. -/
theorem text_read_unless_deepest [codec : JsonCodec] (lawful : codec.Lawful) {text : String}
    (read : parse text = some description) (lists : listing.Lists description) :
    description.Within 62 ∧
      (description.Within 61 → parse listing.text = some description) ∧
      (¬description.Within 61 → parse listing.text = none) := by
  have ordered := ordered_of_parse read
  have schemas : ∀ entry ∈ listing.connectors, entry.2.schema.Ordered :=
    lists.connectors ▸ ordered.schemas
  have same : listing.Within 61 ↔ description.Within 61 := by
    unfold Within
    rw [lists.connectors]
  refine ⟨within_of_parse lawful read, fun within => ?_, fun deepest => ?_⟩
  · have shallow : listing.toJson.depth ≤ codec.nestingLimit := by
      rw [lawful.nestingLimit_eq]
      exact depth_toJson_iff_within.mpr (same.mpr within)
    rw [parse_text_eq lawful schemas]
    exact ofJson_toJson lawful ordered lists shallow
  · exact parse_text_eq_none lawful schemas (deepest ∘ same.mp)

/-- One schema in another, `levels` deep, with nothing else written down. -/
def nested : Nat → Json
  | 0 => ofMembers []
  | levels + 1 => ofMembers [("schemas", ofMembers [("a", nested levels)])]

def nestedText [JsonCodec] (levels : Nat) : String :=
  JsonCodec.write (ofMembers [("connectors", ofMembers [("c", nested levels)])])

def nestedSchema : Nat → SchemaDescription
  | 0 => .empty
  | levels + 1 => ⟨[("a", nestedSchema levels)], [], none⟩

def nestedDescription (levels : Nat) : CatalogDescription where
  settings := .interactive
  connectors := [("c", ⟨true, 0, none, nestedSchema levels⟩)]
  aliases := .empty

theorem simple_nested (levels : Nat) : (nested levels).Simple := by
  induction levels with
  | zero => exact .object (by simp)
  | succ levels ih => exact simple_single _ (simple_single _ ih)

theorem depth_nested (levels : Nat) : (nested levels).depth = 2 * levels + 1 := by
  induction levels with
  | zero => rfl
  | succ levels ih =>
    simp only [nested, ofMembers, List.map_cons, List.map_nil, depth, membersDepth, ih]
    omega

theorem ofFields_nested [JsonCodec] {decode : Json → Option SchemaDescription} {levels : Nat}
    (inside : decode (nested levels) = some (nestedSchema levels)) :
    SchemaDescription.ofFields decode (some (ofMembers [("a", nested levels)])) none none =
      some (nestedSchema (levels + 1)) := by
  simp only [SchemaDescription.ofFields, orDefault, nameMap?_single "a" inside,
    Option.bind_eq_bind, Option.bind_some]
  rfl

theorem schema_ofJson_nested [codec : JsonCodec] (lawful : codec.Lawful) {levels depth : Nat}
    (room : levels < depth) :
    SchemaDescription.ofJson depth (nested levels) = some (nestedSchema levels) := by
  obtain ⟨depth, rfl⟩ := Nat.exists_eq_add_one_of_ne_zero (Nat.ne_zero_of_lt room)
  induction levels generalizing depth with
  | zero =>
    have fields : codec.fields? SchemaDescription.fieldNames (nested 0) = some [none, none, none] :=
      lawful.fields?_ofMembers _ List.nodup_nil
    rw [SchemaDescription.ofJson, fields]
    rfl
  | succ levels ih =>
    obtain ⟨depth, rfl⟩ := Nat.exists_eq_add_one_of_ne_zero (by omega : depth ≠ 0)
    have fields : codec.fields? SchemaDescription.fieldNames (nested (levels + 1)) =
        some [some (ofMembers [("a", nested levels)]), none, none] :=
      lawful.fields?_ofMembers _ (List.pairwise_singleton _ _)
    rw [SchemaDescription.ofJson, fields]
    exact ofFields_nested (ih depth (Nat.lt_of_succ_lt_succ room))

theorem connector_ofJson_nested [codec : JsonCodec] (lawful : codec.Lawful) {levels depth : Nat}
    (room : 2 * levels + 1 ≤ depth) :
    ConnectorDescription.ofJson depth (nested levels) =
      some ⟨true, 0, none, nestedSchema levels⟩ := by
  have admitted : codec.admits depth (nested levels) = true :=
    lawful.admits_simple (simple_nested levels) (by rw [depth_nested]; exact room)
  cases levels with
  | zero =>
    have fields : codec.fields? ConnectorDescription.fieldNames (nested 0) =
        some [none, none, none, none, none, none] := lawful.fields?_ofMembers _ List.nodup_nil
    show (if codec.admits depth (nested 0) then _ else none) = _
    rw [if_pos admitted, fields]
    rfl
  | succ levels =>
    have fields : codec.fields? ConnectorDescription.fieldNames (nested (levels + 1)) =
        some [none, none, none, some (ofMembers [("a", nested levels)]), none, none] :=
      lawful.fields?_ofMembers _ (List.pairwise_singleton _ _)
    have read := ofFields_nested (schema_ofJson_nested lawful (by omega : levels < depth))
    show (if codec.admits depth (nested (levels + 1)) then _ else none) = _
    rw [if_pos admitted, fields]
    simp only [orDefault, read, Option.bind_eq_bind, Option.bind_some]
    rfl

theorem parse_nestedText [codec : JsonCodec] (lawful : codec.Lawful) {levels : Nat}
    (room : levels ≤ 62) : parse (nestedText levels) = some (nestedDescription levels) := by
  have simple : Simple (ofMembers [("connectors", ofMembers [("c", nested levels)])]) :=
    simple_single _ (simple_single _ (simple_nested levels))
  have fields : codec.fields? ["config", "connectors", "aliases"]
      (ofMembers [("connectors", ofMembers [("c", nested levels)])]) =
        some [none, some (ofMembers [("c", nested levels)]), none] :=
    lawful.fields?_ofMembers _ (List.pairwise_singleton _ _)
  have limit : 2 * levels + 1 ≤ codec.nestingLimit - 2 := by
    rw [lawful.nestingLimit_eq]
    omega
  have connector := connector_ofJson_nested lawful limit
  rw [parse, nestedText, lawful.read_write simple, Option.bind_some, ofJson, fields]
  simp only [orDefault, nameMap?_single "c" connector, Option.bind_eq_bind, Option.bind_some]
  rfl

theorem below_nestedSchema (levels : Nat) :
    SchemaDescription.Below levels (nestedSchema levels) .empty := by
  induction levels with
  | zero => exact .self .empty
  | succ levels ih => exact .inside List.mem_cons_self ih

theorem of_below_nestedSchema {levels level : Nat} {inner : SchemaDescription}
    (below : SchemaDescription.Below level (nestedSchema levels) inner) :
    level ≤ levels ∧ inner.tables = [] := by
  induction levels generalizing level with
  | zero =>
    cases below with
    | self => exact ⟨Nat.le_refl 0, rfl⟩
    | inside hm => cases hm
  | succ levels ih =>
    cases below with
    | self => exact ⟨Nat.zero_le _, rfl⟩
    | inside hm below =>
      cases List.mem_singleton.mp hm
      obtain ⟨deeper, none⟩ := ih below
      exact ⟨Nat.succ_le_succ deeper, none⟩

/-- One level above the deepest that can be read. -/
theorem nested_read_back : parse (nestedText 61) = some (nestedDescription 61) ∧
    parse (nestedDescription 61).text = some (nestedDescription 61) := by
  have read : parse (nestedText 61) = some (nestedDescription 61) :=
    parse_nestedText JsonCodec.standard_lawful (by decide)
  have same : (nestedDescription 61).Lists (nestedDescription 61) := by
    refine ⟨rfl, rfl, fun kind => ?_⟩
    cases kind <;> exact ⟨.nil, [], .nil, .nil⟩
  have within : (nestedDescription 61).Within 61 := by
    intro entry hm level inner below
    cases List.mem_singleton.mp hm
    obtain ⟨deeper, none⟩ := of_below_nestedSchema below
    exact ⟨deeper, fun some => absurd none some⟩
  exact ⟨read, (text_read_unless_deepest JsonCodec.standard_lawful read same).2.1 within⟩

/-- At the deepest level that can be read. -/
theorem nested_not_read_back : parse (nestedText 62) = some (nestedDescription 62) ∧
    parse (nestedDescription 62).text = none := by
  have read : parse (nestedText 62) = some (nestedDescription 62) :=
    parse_nestedText JsonCodec.standard_lawful (by decide)
  have schemas := (ordered_of_parse read).schemas
  refine ⟨read, parse_text_eq_none JsonCodec.standard_lawful schemas fun within => ?_⟩
  have shallow := (within ("c", _) List.mem_cons_self 62 _ (below_nestedSchema 62)).1
  exact absurd shallow (by decide)

end CatalogDescription

end FederatedCatalog
