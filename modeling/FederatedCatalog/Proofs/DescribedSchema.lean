import FederatedCatalog.Proofs.Constant
import FederatedCatalog.Proofs.DescriptionOrder
import FederatedCatalog.Proofs.Reached
import FederatedCatalog.Proofs.Walk

namespace FederatedCatalog

namespace SchemaDescription

variable {schema : SchemaDescription}

theorem sorted_chainsIn {schemas : NameMap SchemaDescription} (sorted : schemas.Sorted)
    (inside : ∀ entry ∈ schemas, entry.2.chains.Pairwise fun a b => a.1 < b.1) :
    (chainsIn schemas).Pairwise fun a b => a.1 < b.1 := by
  induction schemas with
  | nil => exact .nil
  | cons entry rest ih =>
    obtain ⟨key, schema⟩ := entry
    obtain ⟨hfirst, hrest⟩ := List.pairwise_cons.mp sorted
    rw [chainsIn, List.pairwise_append, List.pairwise_map]
    refine ⟨?_, ih hrest fun other hm => inside other (List.mem_cons_of_mem _ hm), ?_⟩
    · exact (inside (key, schema) (by simp)).imp fun h => List.Lex.cons h
    · intro first hm second hm'
      obtain ⟨chain, _, rfl⟩ := List.mem_map.mp hm
      obtain ⟨names, last⟩ := second
      obtain ⟨name, inner, below, hlisted, rfl, _⟩ := mem_chainsIn.mp hm'
      exact List.Lex.rel (hfirst (name, inner) hlisted)

theorem Ordered.sorted_chains (ordered : schema.Ordered) :
    schema.chains.Pairwise fun a b => a.1 < b.1 := by
  induction ordered with
  | @mk schemas tables foreignType? schemasSorted _ _ ih =>
    rw [chains_eq, List.pairwise_cons]
    refine ⟨?_, sorted_chainsIn schemasSorted ih⟩
    rintro ⟨names, last⟩ hm
    obtain ⟨name, _, rest, _, rfl, _⟩ := mem_chainsIn.mp hm
    exact List.Lex.nil

/-- Of the schemas with a property, the one to which the first names lead. Names are in the order of
their spelling. -/
structure FirstChain (schema : SchemaDescription) (P : List String → SchemaDescription → Prop)
    (names : List String) (last : SchemaDescription) : Prop where
  chain : schema.Chain names last
  holds : P names last
  first : ∀ {other last'}, schema.Chain other last' → P other last' →
    other = names ∨ names < other

theorem Ordered.firstChain (ordered : schema.Ordered) {α : Type}
    {f : List String × SchemaDescription → Option α} {P : List String → SchemaDescription → Prop}
    (h : ∀ names last, P names last ↔ f (names, last) ≠ none) {found : α}
    (search : schema.chains.findSome? f = some found) : ∃ names last,
      schema.FirstChain P names last ∧ f (names, last) = some found := by
  obtain ⟨⟨names, last⟩, hm, hfound, hleast⟩ :=
    NameMap.least_of_findSome? ordered.sorted_chains search
  refine ⟨names, last, ⟨mem_chains.mp hm, ?_, ?_⟩, hfound⟩
  · rw [h, hfound]
    exact Option.some_ne_none found
  · intro other last' chain holds
    exact (hleast (other, last') (mem_chains.mpr chain) ((h other last').mp holds)).imp_left
      (congrArg Prod.fst)

theorem findSome?_chains_eq_none (schema : SchemaDescription) {α : Type}
    {f : List String × SchemaDescription → Option α}
    {P : List String → SchemaDescription → Prop}
    (h : ∀ names last, P names last ↔ f (names, last) ≠ none) :
    schema.chains.findSome? f = none ↔ ∀ names last, schema.Chain names last → ¬P names last := by
  rw [List.findSome?_eq_none_iff]
  constructor
  · intro hnone names last chain
    rw [h, not_not]
    exact hnone (names, last) (mem_chains.mpr chain)
  · intro hnone chain hm
    have hnot := hnone chain.1 chain.2 (mem_chains.mp hm)
    rwa [h, not_not] at hnot

/-- Names are spelled like others but for case. -/
def Spells (names chain : List String) : Prop :=
  chain.map Text.lower = names.map Text.lower

/-- Names are spelled like others but for case, and lead to a schema with a table of a title. -/
def SpellsTable (names : List String) (title : String) (chain : List String)
    (last : SchemaDescription) : Prop :=
  Spells names chain ∧ ∃ table, NameMap.get? title last.tables = some table

theorem kindAt_eq_some {connector : String} {names chain : List String} {last : SchemaDescription}
    {kind : NodeKind} : kindAt connector (names.map Text.lower) (chain, last) = some kind ↔
      Spells names chain ∧ Tree.openedKind connector last.foreignType? = kind := by
  simp [kindAt, Spells]

theorem tableAt_eq_some {maker call : Nat} {names chain : List String} {title : String}
    {last : SchemaDescription} {entry : TableEntry} :
    tableAt maker call (names.map Text.lower) title (chain, last) = some entry ↔
      Spells names chain ∧ ∃ table, NameMap.get? title last.tables = some table ∧
        table.entry title ⟨maker, call, chain ++ [title]⟩ = entry := by
  simp [tableAt, Spells]

theorem spells_iff (connector : String) (names chain : List String) (last : SchemaDescription) :
    Spells names chain ↔ kindAt connector (names.map Text.lower) (chain, last) ≠ none := by
  simp [Option.ne_none_iff_exists', kindAt_eq_some]

theorem spellsTable_iff (maker call : Nat) (names : List String) (title : String)
    (chain : List String) (last : SchemaDescription) : SpellsTable names title chain last ↔
      tableAt maker call (names.map Text.lower) title (chain, last) ≠ none := by
  rw [Option.ne_none_iff_exists']
  constructor
  · rintro ⟨spells, table, listed⟩
    exact ⟨_, tableAt_eq_some.mpr ⟨spells, table, listed, rfl⟩⟩
  · rintro ⟨entry, hentry⟩
    obtain ⟨spells, table, listed, _⟩ := tableAt_eq_some.mp hentry
    exact ⟨spells, table, listed⟩

end SchemaDescription

namespace Connector

variable (serial : Nat) (name : String) (schema : SchemaDescription) (failure : Failure)
  (call : Nat)

theorem added_described_table (path : List String) (title : String) :
    ((described serial name schema 0 failure).added call).table (Text.lower name :: path) title =
      schema.chains.findSome? (SchemaDescription.tableAt serial call path title) := by
  rw [added_described, SchemaDescription.allTables_additions]
  simp only [Content.ofLists, List.find?_flatMap, List.map_findSome?]
  congr 1
  funext chain
  exact SchemaDescription.find?_chainTables [name] path serial call chain title

end Connector

namespace Tree

variable {tree before after : Tree} {name : String} {id : NodeId}

section Below

variable {connector : String} (sound : tree.Sound)
  (located : tree.locate? [Text.lower name] = some id)
  (own : tree.content.kind [Text.lower name] = some (.schema connector))

include sound located own

theorem Sound.walk?_below (names : List String) :
    tree.walk? id names = tree.locate? (Text.lower name :: names.map Text.lower) := by
  obtain ⟨node, hnode⟩ := sound.locate?_node located
  rw [content_kind_of_locate? located hnode] at own
  have hfollow : tree.follow id = id := by
    apply follow_of_kind hnode
    intro target hkind
    rw [hkind] at own
    cases own
  cases names with
  | nil => exact located.symm
  | cons first rest =>
    obtain ⟨hlt, hlineage⟩ := sound.locate?_eq_some_iff.mp located
    rw [sound.walk?_eq_locate? hlt (sound.ne_root_of_locate? located (List.cons_ne_nil _ []))
      (List.cons_ne_nil first rest), hfollow, hlineage]
    rfl

theorem Sound.table?_below {names : List String} {found : NodeId}
    (walk : tree.walk? id names = some found) (title : String) :
    tree.table? found title true =
      tree.content.table (Text.lower name :: names.map Text.lower) title := by
  have hread : tree.readAt (name :: names) = Text.lower name :: names.map Text.lower := by
    simp [readAt, own]
  have hwalk : tree.walk? root (name :: names) = some found := by
    rw [walk?, child?_root sound, located]
    exact walk
  have htable := sound.table?_walk? (name :: names) title
  rw [hwalk, hread] at htable
  exact htable

end Below

/-- What is found along names from the node of a connector, in terms of the connector's description:
the schemas to which the names lead, if they are spelled like others there but for case. The kind of
the first such schema is seen, and its tables before those of the ones that come next. -/
structure Describes (tree : Tree) (id : NodeId) (connector : String) (schema : SchemaDescription)
    (maker call : Nat) (names : List String) : Prop where
  found_iff : (∃ found, tree.walk? id names = some found) ↔
    ∃ chain last, schema.Chain chain last ∧ SchemaDescription.Spells names chain
  kind : ∀ {found}, names ≠ [] → tree.walk? id names = some found → ∃ chain last,
    schema.FirstChain (fun chain _ => SchemaDescription.Spells names chain) chain last ∧
      tree.kindOf? found = some (openedKind connector last.foreignType?)
  table_some : ∀ {found title entry}, tree.walk? id names = some found →
    tree.table? found title true = some entry → ∃ chain last table,
      schema.FirstChain (SchemaDescription.SpellsTable names title) chain last ∧
        NameMap.get? title last.tables = some table ∧
        entry.table.mark = ⟨maker, call, chain ++ [title]⟩ ∧
        entry.view = ⟨title, if table.view?.isSome then .view else .table, .columns table.columns,
          table.view?⟩
  table_none : ∀ {found title}, tree.walk? id names = some found →
    (tree.table? found title true = none ↔ ∀ chain last, schema.Chain chain last →
      ¬SchemaDescription.SpellsTable names title chain last)

section Described

variable {serial call : Nat} {schema : SchemaDescription} {failure : Failure}
  (gains : before.Gains after ((Connector.described serial name schema 0 failure).added call))
  (sound : before.Sound) (free : before.content.kind [Text.lower name] = none)

include gains sound free

theorem Gains.described_own : after.content.kind [Text.lower name] = some (.schema name) := by
  have own : (Connector.described serial name schema 0 failure).AddsOwn call :=
    ⟨schema.additions serial call [], rfl⟩
  exact (gains.content_below sound free []).1.trans own.added_self

theorem Gains.described_kind {names : List String} (below : names ≠ []) :
    after.content.kind (Text.lower name :: names.map Text.lower) =
      schema.chains.findSome? (SchemaDescription.kindAt name (names.map Text.lower)) := by
  rw [(gains.content_below sound free _).1]
  exact Connector.added_described_kind serial name schema failure call
    (mt List.map_eq_nil_iff.mp below)

theorem Gains.described_table (located : after.locate? [Text.lower name] = some id)
    {names : List String} {found : NodeId} (walk : after.walk? id names = some found)
    (title : String) : after.table? found title true =
      schema.chains.findSome?
        (SchemaDescription.tableAt serial call (names.map Text.lower) title) := by
  rw [(sound.of_grown gains.grown).table?_below located (gains.described_own sound free) walk,
    (gains.content_below sound free _).2]
  exact Connector.added_described_table serial name schema failure call _ title

theorem Gains.describes (ordered : schema.Ordered)
    (located : after.locate? [Text.lower name] = some id) (names : List String) :
    after.Describes id name schema serial call names := by
  have sound' := sound.of_grown gains.grown
  have walks := sound'.walk?_below located (gains.described_own sound free) names
  refine ⟨?_, ?_, ?_, ?_⟩
  · cases names with
    | nil => exact ⟨fun _ => ⟨[], schema, .here schema, rfl⟩, fun _ => ⟨id, rfl⟩⟩
    | cons first rest =>
      have hnone := SchemaDescription.findSome?_chains_eq_none schema
        (SchemaDescription.spells_iff name (first :: rest))
      rw [← gains.described_kind sound free (List.cons_ne_nil first rest),
        sound'.content_kind_eq_none, ← walks] at hnone
      rw [← Option.ne_none_iff_exists', Ne, hnone]
      simp
  · intro found below walk
    rw [walks] at walk
    obtain ⟨node, hnode⟩ := sound'.locate?_node walk
    have search := (gains.described_kind sound free below).symm.trans
      (content_kind_of_locate? walk hnode)
    obtain ⟨chain, last, first, hfound⟩ :=
      ordered.firstChain (SchemaDescription.spells_iff name names) search
    refine ⟨chain, last, first, ?_⟩
    simp [kindOf?, hnode, (SchemaDescription.kindAt_eq_some.mp hfound).2]
  · intro found title entry walk htable
    obtain ⟨chain, last, first, hfound⟩ :=
      ordered.firstChain (SchemaDescription.spellsTable_iff serial call names title)
        ((gains.described_table sound free located walk title).symm.trans htable)
    obtain ⟨_, table, hlisted, rfl⟩ := SchemaDescription.tableAt_eq_some.mp hfound
    exact ⟨chain, last, table, first, hlisted, rfl, rfl⟩
  · intro found title walk
    rw [gains.described_table sound free located walk]
    exact SchemaDescription.findSome?_chains_eq_none schema
      (SchemaDescription.spellsTable_iff serial call names title)

end Described

end Tree

theorem LookupState.register_described {state : LookupState} (sound : state.tree.Sound)
    (context : LookupContext) (asked : String) (serial : Nat) (name : String)
    (schema : SchemaDescription) (failure : Failure) :
    (state.register context asked (.described serial name schema 0 failure)).answer = .ok () ∧
      state.tree.Gains
        (state.register context asked (.described serial name schema 0 failure)).after.tree
        ((Connector.described serial name schema 0 failure).added (state.calls.of serial)) := by
  let connector := Connector.described serial name schema 0 failure
  obtain ⟨last, hle, _, failing, ⟨_, hanswer, _, htree⟩ | ⟨failed, _⟩⟩ :=
    state.register_cases context asked connector
  · -- a call that succeeds is the last one, so there is no call before it
    have hlast : last = state.calls.of serial := by
      apply Nat.le_antisymm _ hle
      rw [← Nat.not_lt]
      exact fun hlt => failing _ (Nat.le_refl _) hlt rfl
    refine ⟨hanswer, ?_⟩
    rw [htree, hlast]
    exact Tree.register_gains sound name _
  · exact absurd rfl failed

/-- If a session asks for a connector that never fails, by a name that is no alias and under which
the tree has no schema yet, then the node that is found and all that is found below it is as the
connector's description says. -/
theorem Tree.Reached.described_found {state : LookupState} (reached : state.tree.Reached)
    (context : LookupContext) {name : String} {serial : Nat} {schema : SchemaDescription}
    {failure : Failure} (ordered : schema.Ordered)
    (serves : state.registry.enabled? name = some (.described serial name schema 0 failure))
    (plain : context.aliases.namespaceAlias context.settings.user name = none)
    (free : state.tree.child? Tree.root name = none) (caseSensitive : Bool) :
    ∃ id after, state.findChild context name caseSensitive = ⟨.ok (some id), after⟩ ∧
      after.tree.kindOf? id = some (.schema name) ∧
      ∀ names, after.tree.Describes id name schema serial (state.calls.of serial) names := by
  have sound := reached.sound
  let asking := state.note (.resolving name caseSensitive)
  obtain ⟨answered, gains⟩ :=
    asking.register_described sound context (Text.lower name) serial name schema failure
  have fresh := free
  rw [Tree.child?_root sound, ← sound.content_kind_eq_none] at fresh
  obtain ⟨id, node, located, hnode, hkind⟩ :=
    Tree.content_kind_eq_some.mp (gains.described_own sound fresh)
  refine ⟨id, _, ?_, ?_, gains.describes sound fresh ordered located⟩
  · have served : asking.findSchema context name = _ :=
      LookupState.findSchema_registers serves free
    have hchild := Tree.child?_root (sound.of_grown gains.grown) (Text.lower name)
    rw [Text.lower_lower, located] at hchild
    rw [LookupState.findChild_of_no_alias caseSensitive plain, served]
    simp only [LookupRun.read, answered, Except.map, hchild]
  · simp [Tree.kindOf?, hnode, hkind]

/-- A description with schemas whose names differ in case only, the first one of a foreign type. -/
def lakeDescription : SchemaDescription :=
  ⟨[("A", ⟨[], [("t", ⟨["first"], none⟩)], some "FAR"⟩),
    ("a", ⟨[("X", .empty)], [("t", ⟨["second"], none⟩), ("v", ⟨[], some "select 1"⟩)], none⟩)],
    [], none⟩

def lakeCatalog : Catalog :=
  (Catalog.empty .immediate).run
    [.register (.described 0 "Lake" lakeDescription 0 (.unreachable "Lake")) true]

def lakeRun : LookupRun (Option NodeId) :=
  (lakeCatalog.state ⟨.bare, .immediate⟩).findChild (lakeCatalog.context ⟨.bare, .immediate⟩) "Lake"
    false

/-- The two schemas are one node. It has the type of the first, and of the second it has the table
that the first does not have. -/
theorem lakeDescription_found :
    ∃ id found after, lakeRun = ⟨.ok (some id), after⟩ ∧
      (∀ names, after.tree.Describes id "Lake" lakeDescription 0 0 names) ∧
      after.tree.walk? id ["a"] = some found ∧ after.tree.kindOf? found = some (.foreign "FAR") ∧
      (after.tree.table? found "t" true).map (fun entry => entry.table.mark.place) =
        some ["A", "t"] ∧
      (after.tree.table? found "v" true).map (fun entry => entry.table.mark.place) =
        some ["a", "v"] := by
  have empty : SchemaDescription.empty.Ordered := .mk none .nil .nil (by simp)
  have first : SchemaDescription.Ordered ⟨[], [("t", ⟨["first"], none⟩)], some "FAR"⟩ :=
    .mk _ .nil (List.pairwise_singleton _ _) (by simp)
  have second : SchemaDescription.Ordered
      ⟨[("X", .empty)], [("t", ⟨["second"], none⟩), ("v", ⟨[], some "select 1"⟩)], none⟩ :=
    .mk _ (List.pairwise_singleton _ _) (by unfold NameMap.Sorted; decide) (by simpa)
  have ordered : lakeDescription.Ordered :=
    .mk _ (by unfold NameMap.Sorted; decide) .nil (by simp [first, second])
  have reached : (lakeCatalog.state ⟨.bare, .immediate⟩).tree.Reached := .bare
  have answered : lakeRun.answer = .ok (some 1) := by decide +kernel
  obtain ⟨id, after, hrun, _, described⟩ := reached.described_found
    (lakeCatalog.context ⟨.bare, .immediate⟩) ordered (show _ = some
      (Connector.described 0 "Lake" lakeDescription 0 (.unreachable "Lake")) by rfl) rfl
    (by decide +kernel) false
  have hlake : lakeRun = ⟨.ok (some id), after⟩ := hrun
  rw [hlake] at answered
  cases answered
  obtain rfl : lakeRun.after = after := congrArg LookupRun.after hlake
  exact ⟨1, 2, lakeRun.after, hlake, described, by decide +kernel, by decide +kernel,
    by decide +kernel, by decide +kernel⟩

end FederatedCatalog
