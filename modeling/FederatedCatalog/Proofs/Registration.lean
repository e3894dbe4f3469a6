import FederatedCatalog.Connector.Script
import FederatedCatalog.Proofs.Stability
import FederatedCatalog.Proofs.Walk

namespace FederatedCatalog

namespace Content

theorem kind_of_mem_allSchemas {connector : String} {place : List String}
    {additions : List Addition} {schema : List String × NodeKind}
    (h : schema ∈ Addition.allSchemas connector place additions) :
    (ofAdditions connector place additions).kind (schema.1.map Text.lower) ≠ none := by
  intro hnone
  have hfind := Option.map_eq_none_iff.mp hnone
  rw [List.find?_eq_none] at hfind
  exact hfind schema h (decide_eq_true rfl)

theorem table_of_mem_allTables (connector : String) {place : List String}
    {additions : List Addition} {table : List String × TableEntry}
    (h : table ∈ Addition.allTables place additions) : ∃ entry,
      (ofAdditions connector place additions).table (table.1.map Text.lower) table.2.name =
        some entry := by
  apply Option.ne_none_iff_exists'.mp
  intro hnone
  have hfind := Option.map_eq_none_iff.mp hnone
  rw [List.find?_eq_none] at hfind
  exact hfind table h (decide_eq_true ⟨rfl, rfl⟩)

end Content

namespace Tree

theorem Keeps.content_kind {before after : Tree} (keeps : before.Keeps after) {path : List String}
    {kind : NodeKind} (h : before.content.kind path = some kind) :
    after.content.kind path = some kind := by
  obtain ⟨id, node, hid, hnode, rfl⟩ := content_kind_eq_some.mp h
  obtain ⟨later, hlater, _, _, _, hkind, _⟩ := keeps hnode
  rw [content_kind_of_locate? (keeps.locate? hid) hlater, hkind]

theorem Keeps.readAt {before after : Tree} (keeps : before.Keeps after) (sound : before.Sound)
    (sound' : after.Sound) {name : String} (fresh : before.content.kind [Text.lower name] = none →
      ∀ target, after.content.kind [Text.lower name] ≠ some (.compound target))
    (rest : List String) : after.readAt (name :: rest) = before.readAt (name :: rest) := by
  cases hkind : before.content.kind [Text.lower name] with
  | none =>
    simp only [Tree.readAt, hkind]
    split
    next target heq => exact absurd heq (fresh hkind target)
    next => rfl
  | some kind =>
    obtain ⟨id, hid⟩ := Option.ne_none_iff_exists'.mp fun hnone => by
      rw [sound.content_kind_eq_none.mpr hnone] at hkind
      cases hkind
    have hlt := (sound.locate?_eq_some_iff.mp hid).1
    rw [sound.readAt_of_locate? hid, sound'.readAt_of_locate? (keeps.locate? hid),
      keeps.follow sound sound' hlt, keeps.lineage sound sound' (sound.follow_lt hlt)]

variable {tree before mid after : Tree} {connector : String} {additions : List Addition}

section Registered

variable (sound : before.Sound) (gains : before.Gains mid (.ofAdditions connector [] additions))
  (same : mid.SameBelow after)

include sound gains same

theorem readAt_registered {names : List String}
    (there : mid.content.kind (names.map Text.lower) ≠ none) :
    after.readAt names = before.readAt names := by
  cases names with
  | nil => rfl
  | cons name rest =>
    have soundMid := sound.of_grown gains.grown
    have soundAfter := soundMid.of_grown same.grown
    obtain ⟨kind, hkind⟩ := Option.ne_none_iff_exists'.mp there
    have hsplit : mid.content.kind ([Text.lower name] ++ rest.map Text.lower) = some kind := hkind
    obtain ⟨top, htop⟩ := Option.ne_none_iff_exists'.mp (soundMid.kind_above hsplit)
    rw [same.grown.keeps.readAt soundMid soundAfter (fun hnone => by
        rw [hnone] at htop
        cases htop),
      gains.grown.keeps.readAt sound soundMid (fun hnone target => by
        rw [gains.content]
        simp only [Content.overlay, hnone, Option.none_or]
        exact ofAdditions_not_compound connector [] additions _ target)]

/-- A schema is found if there is one at the path where its names are read. -/
theorem walk?_registered {names : List String}
    (there : mid.content.kind (names.map Text.lower) ≠ none) :
    (∃ id, after.walk? root names = some id) ↔
      (before.content.overlay (.ofAdditions connector [] additions)).kind (before.readAt names) ≠
        none := by
  have soundMid := sound.of_grown gains.grown
  have soundAfter := soundMid.of_grown same.grown
  have hread := soundAfter.follow_walk? names
  rw [readAt_registered sound gains same there] at hread
  have hfound : (∃ id, after.walk? root names = some id) ↔
      after.content.kind (before.readAt names) ≠ none := by
    rw [← Option.ne_none_iff_exists', Ne, Ne, soundAfter.content_kind_eq_none, ← hread,
      Option.map_eq_none_iff]
  rw [hfound, ← gains.content]
  rcases sound.readAt_cases names with heq | hlength
  · obtain ⟨kind, hkind⟩ := Option.ne_none_iff_exists'.mp there
    rw [heq, hkind, same.grown.keeps.content_kind hkind]
  · rw [same.kind _ (Nat.ne_of_gt hlength)]

theorem table?_registered {names : List String}
    (there : mid.content.kind (names.map Text.lower) ≠ none) (name : String) :
    ((after.walk? root names).bind fun id => after.table? id name true) =
      (before.content.overlay (.ofAdditions connector [] additions)).table (before.readAt names)
        name := by
  have soundAfter := (sound.of_grown gains.grown).of_grown same.grown
  rw [soundAfter.table?_walk?, readAt_registered sound gains same there, same.table, gains.content]

end Registered

theorem Sound.kind_of_table (sound : tree.Sound) {path : List String} {name : String}
    {entry : TableEntry} (h : tree.content.table path name = some entry) :
    tree.content.kind path ≠ none := by
  rw [Ne, sound.content_kind_eq_none]
  intro hnone
  rw [(content_of_locate?_none hnone).2] at h
  cases h

/-- What is found of a connector's additions in a tree that comes about from another one by them. -/
structure Registered (before after : Tree) (connector : String) (additions : List Addition) :
    Prop where
  /-- A schema is found if there is one where its names are read, old or new. -/
  schema_iff : ∀ schema ∈ Addition.allSchemas connector [] additions,
    (∃ id, after.walk? root schema.1 = some id) ↔
      (before.content.overlay (.ofAdditions connector [] additions)).kind (before.readAt schema.1) ≠
        none
  /-- Of the tables of its name the one is found that is there where the schema's names are read, an
  old one before new ones. -/
  table_iff : ∀ table ∈ Addition.allTables [] additions, ∀ entry,
    (∃ id, after.walk? root table.1 = some id ∧
        after.table? id table.2.name true = some entry) ↔
      (before.content.overlay (.ofAdditions connector [] additions)).table (before.readAt table.1)
        table.2.name = some entry
  /-- A schema is found if its names are read as they are. -/
  schema_found : ∀ schema ∈ Addition.allSchemas connector [] additions,
    before.readAt schema.1 = schema.1.map Text.lower → ∃ id, after.walk? root schema.1 = some id
  /-- And so is a table, unless one was there or added before it under its name and place. -/
  table_found : ∀ table ∈ Addition.allTables [] additions,
    before.readAt table.1 = table.1.map Text.lower → ∃ id entry,
      after.walk? root table.1 = some id ∧ after.table? id table.2.name true = some entry ∧
      (before.content.table (table.1.map Text.lower) table.2.name = some entry ∨
        ∃ own ∈ Addition.allTables [] additions, own.2 = entry ∧ entry.name = table.2.name ∧
          own.1.map Text.lower = table.1.map Text.lower)

theorem Gains.registered (gains : before.Gains mid (.ofAdditions connector [] additions))
    (sound : before.Sound) (same : mid.SameBelow after) :
    before.Registered after connector additions := by
  have soundMid := sound.of_grown gains.grown
  have schemaThere : ∀ schema ∈ Addition.allSchemas connector [] additions,
      mid.content.kind (schema.1.map Text.lower) ≠ none := by
    intro schema hm
    rw [gains.content, Content.overlay, Ne, Option.or_eq_none_iff]
    exact fun h => Content.kind_of_mem_allSchemas hm h.2
  have tableThere : ∀ table ∈ Addition.allTables [] additions, ∃ entry,
      (before.content.overlay (.ofAdditions connector [] additions)).table (table.1.map Text.lower)
        table.2.name = some entry := by
    intro table hm
    obtain ⟨own, hown⟩ := Content.table_of_mem_allTables connector hm
    cases h : before.content.table (table.1.map Text.lower) table.2.name with
    | none => exact ⟨own, by simp [Content.overlay, h, hown]⟩
    | some entry => exact ⟨entry, by simp [Content.overlay, h]⟩
  have tableRead : ∀ table ∈ Addition.allTables [] additions, ∀ entry,
      (∃ id, after.walk? root table.1 = some id ∧
        after.table? id table.2.name true = some entry) ↔
      (before.content.overlay (.ofAdditions connector [] additions)).table (before.readAt table.1)
        table.2.name = some entry := by
    intro table hm entry
    obtain ⟨there, hthere⟩ := tableThere table hm
    rw [← gains.content] at hthere
    rw [← table?_registered sound gains same (soundMid.kind_of_table hthere),
      Option.bind_eq_some_iff]
  refine ⟨?_, tableRead, ?_, ?_⟩
  · intro schema hm
    exact walk?_registered sound gains same (schemaThere schema hm)
  · intro schema hm hread
    rw [walk?_registered sound gains same (schemaThere schema hm), hread, ← gains.content]
    exact schemaThere schema hm
  · intro table hm hread
    obtain ⟨entry, hentry⟩ := tableThere table hm
    obtain ⟨id, hid, htable⟩ := (tableRead table hm entry).mpr (hread ▸ hentry)
    refine ⟨id, entry, hid, htable, ?_⟩
    rcases Option.or_eq_some_iff.mp hentry with hbefore | ⟨_, hadded⟩
    · exact Or.inl hbefore
    · obtain ⟨place, hplace, hpath, hname⟩ := Content.mem_of_ofLists_table hadded
      exact Or.inr ⟨(place, entry), hplace, rfl, hname, hpath⟩

end Tree

namespace LookupState

variable {state after : LookupState}

theorem Course.registered {context : LookupContext} {family : Nat → Connector} {serial call : Nat}
    (course : Course context state after) (sound : state.tree.Sound)
    (told : state.registry.Holds fun connector => connector = family connector.serial)
    (uncalled : .called serial ∉ state.trace) (called : .called serial ∈ after.trace)
    (last : after.calls.of serial = call + 1)
    (succeeded : ((family serial).attempt call).failure? = none) :
    state.tree.Registered after.tree (family serial).name
      ((family serial).attempt call).additions := by
  obtain ⟨mid, gains, same⟩ := course.gains sound told uncalled called last succeeded
  exact gains.registered sound same

end LookupState

namespace Catalog

/-- Of what a connector adds while a session is asked something, everything is found in the
session's tree along its own names, unless they begin with the name of a compound node. `family`
has the connectors by their serial numbers, and `call` is the last call that was made. -/
theorem registered_content_found {start : Catalog} (empty : start.registry = .empty)
    (fresh : start.sessions = #[]) {family : Nat → Connector} {operations : List Operation}
    (told : ∀ operation ∈ operations,
      operation.Brings fun connector => connector = family connector.serial)
    {number : Nat} {session : Session}
    (opened : (start.run operations).sessions[number]? = some session) {question : Question}
    {serial call : Nat}
    (called : .called serial ∈ ((start.run operations).ask number question).2.1)
    (last : ((start.run operations).ask number question).2.2.calls.of serial = call + 1)
    (succeeded : ((family serial).attempt call).failure? = none) : ∃ later,
      ((start.run operations).ask number question).2.2.sessions[number]? = some later ∧
      session.tree.Registered later.tree (family serial).name
        ((family serial).attempt call).additions := by
  obtain ⟨holds, sessions⟩ : (start.run operations).registry.Holds
      (fun connector => connector = family connector.serial) ∧
      (start.run operations).Sessions fun _ => True :=
    run_holds empty fresh trivial (fun _ _ _ _ _ _ _ => trivial) told
  have sound := (sessions opened).1
  have course : LookupState.Course ((start.run operations).context session)
      ((start.run operations).state session)
      (question.ask ((start.run operations).context session)
        ((start.run operations).state session)).after := LookupState.ask_course sound question
  rw [ask_eq opened] at called last ⊢
  refine ⟨⟨(question.ask ((start.run operations).context session)
    ((start.run operations).state session)).after.tree, session.settings⟩, ?_, ?_⟩
  · rw [getElem?_resume, if_pos rfl, opened]
    rfl
  · have uncalled : .called serial ∉ ((start.run operations).state session).trace := by
      simp [state]
    exact course.registered sound holds uncalled called last succeeded

def outerConnector : Connector :=
  .described 0 "o" ⟨[("c", .empty)], [], none⟩ 0 (.unreachable "o")

/-- A connector that opens its own schema, and another one under a name with a dot. -/
def intrudingConnector : Connector :=
  .scripted 1 "p" [⟨[⟨["p"], none, []⟩, ⟨["o.c", "x"], none, []⟩], none⟩]

/-- A session in which the dotted name is a compound node's. -/
def compoundFirst : List Operation :=
  [.register outerConnector true, .register intrudingConnector true, .openSession none,
    .ask 0 (.child "o.c" false)]

theorem intruder_registered : ∃ session later,
    ((empty .immediate).run compoundFirst).sessions[0]? = some session ∧
    (((empty .immediate).run compoundFirst).ask 0 (.child "p" false)).2.2.sessions[0]? =
      some later ∧
    session.tree.Registered later.tree "p" (intrudingConnector.attempt 0).additions := by
  have told : ∀ operation ∈ compoundFirst, operation.Brings fun connector =>
      connector = if connector.serial = 0 then outerConnector else intrudingConnector := by
    intro operation hm
    simp only [compoundFirst, List.mem_cons, List.not_mem_nil, or_false] at hm
    rcases hm with rfl | rfl | rfl | rfl
    · rfl
    · rfl
    · trivial
    · trivial
  have first : ((empty .immediate).run (compoundFirst.take 3)).sessions[0]? =
      some ⟨.bare, .immediate⟩ := rfl
  obtain ⟨session, opened, _⟩ := run_session (compoundFirst.drop 3) first Tree.sound_bare
  have called : .called 1 ∈
      (((empty .immediate).run compoundFirst).ask 0 (.child "p" false)).2.1 := by
    decide +kernel
  have last : (((empty .immediate).run compoundFirst).ask 0 (.child "p" false)).2.2.calls.of 1 =
      0 + 1 := by
    decide +kernel
  obtain ⟨later, hlater, registered⟩ :=
    @registered_content_found _ rfl rfl
      (fun serial => if serial = 0 then outerConnector else intrudingConnector) compoundFirst told 0
      session opened (.child "p" false) 1 0 called last rfl
  exact ⟨session, later, opened, hlater, registered⟩

/-- The schema that was added below the compound node is not found along the names under which it
was added. -/
theorem intruder_lost :
    .called 1 ∈ (((empty .immediate).run compoundFirst).ask 0 (.child "p" false)).2.1 ∧
    (((empty .immediate).run compoundFirst).ask 0 (.child "p" false)).2.2.calls.of 1 = 1 ∧
    (intrudingConnector.attempt 0).failure? = none ∧
    (["o.c", "x"], .schema "p") ∈
      Addition.allSchemas "p" [] (intrudingConnector.attempt 0).additions ∧
    ((((empty .immediate).run compoundFirst).ask 0 (.child "p" false)).2.2.sessions[0]?.map
      fun later => later.tree.walk? Tree.root ["o.c", "x"]) = some none := by
  decide +kernel

end Catalog

end FederatedCatalog
