import FederatedCatalog.Description.Schema
import FederatedCatalog.Proofs.LookupStep
import FederatedCatalog.Proofs.Registry

namespace FederatedCatalog

namespace Addition

mutual

theorem place_of_mem_schemas {connector : String} {place : List String} {addition : Addition}
    {schema : List String × NodeKind} (h : schema ∈ addition.schemas connector place) :
    ∃ name rest foreignType? inside, schema.1 = place ++ name :: rest ∧
      addition = .schema name foreignType? inside := by
  match addition with
  | .table entry => cases h
  | .schema name foreignType? inside =>
    rcases List.mem_cons.mp h with rfl | h
    · exact ⟨name, [], foreignType?, inside, rfl, rfl⟩
    · obtain ⟨next, rest, _, _, hrest, _⟩ := place_of_mem_allSchemas h
      exact ⟨name, next :: rest, foreignType?, inside, by simp [hrest], rfl⟩

theorem place_of_mem_allSchemas {connector : String} {place : List String}
    {additions : List Addition} {schema : List String × NodeKind}
    (h : schema ∈ allSchemas connector place additions) :
    ∃ name rest foreignType? inside, schema.1 = place ++ name :: rest ∧
      .schema name foreignType? inside ∈ additions := by
  match additions with
  | [] => cases h
  | addition :: others =>
    rcases List.mem_append.mp h with h | h
    · obtain ⟨name, rest, foreignType?, inside, hplace, rfl⟩ := place_of_mem_schemas h
      exact ⟨name, rest, foreignType?, inside, hplace, by simp⟩
    · obtain ⟨name, rest, foreignType?, inside, hplace, hm⟩ := place_of_mem_allSchemas h
      exact ⟨name, rest, foreignType?, inside, hplace, List.mem_cons_of_mem addition hm⟩

end

mutual

theorem place_of_mem_tables {place : List String} {addition : Addition}
    {table : List String × TableEntry} (h : table ∈ addition.tables place) :
    ∃ rest, table.1 = place ++ rest := by
  match addition with
  | .table entry =>
    cases List.mem_singleton.mp h
    exact ⟨[], by simp⟩
  | .schema name foreignType? inside =>
    obtain ⟨rest, hrest⟩ := place_of_mem_allTables h
    exact ⟨name :: rest, by simp [hrest]⟩

theorem place_of_mem_allTables {place : List String} {additions : List Addition}
    {table : List String × TableEntry} (h : table ∈ allTables place additions) :
    ∃ rest, table.1 = place ++ rest := by
  match additions with
  | [] => cases h
  | addition :: rest =>
    rcases List.mem_append.mp h with h | h
    · exact place_of_mem_tables h
    · exact place_of_mem_allTables h

end

end Addition

namespace Connector

variable {connector : Connector} {call : Nat}

/-- What a connector adds in its call of that number. -/
def added (connector : Connector) (call : Nat) : Content :=
  .ofAdditions connector.name [] (connector.attempt call).additions

/-- What the call adds is one schema, of the connector's own name, with what is inside. -/
def AddsOwn (connector : Connector) (call : Nat) : Prop :=
  ∃ inside, (connector.attempt call).additions = [.schema connector.name none inside]

namespace AddsOwn

theorem added_self (own : connector.AddsOwn call) :
    (connector.added call).kind [Text.lower connector.name] = some (.schema connector.name) := by
  obtain ⟨inside, hinside⟩ := own
  simp [added, hinside, Content.ofAdditions, Content.ofLists, Addition.allSchemas,
    Addition.schemas, Tree.openedKind]

theorem place_of_added_kind (own : connector.AddsOwn call) {path : List String} {kind : NodeKind}
    (h : (connector.added call).kind path = some kind) :
    ∃ rest, path = Text.lower connector.name :: rest := by
  obtain ⟨inside, hinside⟩ := own
  obtain ⟨place, hm, rfl⟩ := Content.mem_of_ofLists_kind h
  rw [hinside] at hm
  obtain ⟨first, rest, foreignType?, _, hplace, hin⟩ := Addition.place_of_mem_allSchemas hm
  cases List.mem_singleton.mp hin
  exact ⟨rest.map Text.lower, congrArg (List.map Text.lower) hplace⟩

theorem place_of_added_table (own : connector.AddsOwn call) {path : List String} {name : String}
    {entry : TableEntry} (h : (connector.added call).table path name = some entry) :
    ∃ rest, path = Text.lower connector.name :: rest := by
  obtain ⟨inside, hinside⟩ := own
  obtain ⟨place, hm, rfl, _⟩ := Content.mem_of_ofLists_table h
  rw [hinside] at hm
  simp only [Addition.allTables, Addition.tables, List.append_nil, List.nil_append] at hm
  obtain ⟨rest, hrest⟩ := Addition.place_of_mem_allTables hm
  exact ⟨rest.map Text.lower, congrArg (List.map Text.lower) hrest⟩

theorem added_at_root (own : connector.AddsOwn call) {key : String} {kind : NodeKind}
    (h : (connector.added call).kind [key] = some kind) :
    key = Text.lower connector.name ∧ kind = .schema connector.name := by
  obtain ⟨rest, hrest⟩ := own.place_of_added_kind h
  obtain ⟨rfl, _⟩ := List.cons.inj hrest
  exact ⟨rfl, Option.some.inj (h.symm.trans own.added_self)⟩

/-- What is added changes nothing but the connector's own schema. -/
theorem content_elsewhere (own : connector.AddsOwn call) {before after : Tree}
    (gains : before.Gains after (connector.added call)) {path : List String}
    (hne : ∀ rest, path ≠ Text.lower connector.name :: rest) :
    after.content.kind path = before.content.kind path ∧
      ∀ name, after.content.table path name = before.content.table path name := by
  have hkind : (connector.added call).kind path = none := by
    rw [Option.eq_none_iff_forall_ne_some]
    intro kind h
    obtain ⟨rest, heq⟩ := own.place_of_added_kind h
    exact hne rest heq
  have htable : ∀ name, (connector.added call).table path name = none := by
    intro name
    rw [Option.eq_none_iff_forall_ne_some]
    intro entry h
    obtain ⟨rest, heq⟩ := own.place_of_added_table h
    exact hne rest heq
  rw [gains.content]
  simp [Content.overlay, hkind, htable]

theorem locate?_name (own : connector.AddsOwn call) {before after : Tree} (sound : before.Sound)
    (gains : before.Gains after (connector.added call)) :
    ∃ id, after.locate? [Text.lower connector.name] = some id := by
  have there : after.content.kind [Text.lower connector.name] ≠ none := by
    rw [gains.content]
    simp only [Content.overlay, own.added_self]
    cases before.content.kind [Text.lower connector.name] <;> exact Option.some_ne_none _
  rw [Ne, (sound.of_grown gains.grown).content_kind_eq_none] at there
  exact Option.ne_none_iff_exists'.mp there

end AddsOwn

/-- A connector that adds nothing but one schema, of its own name, when it succeeds. -/
def SelfNamed (connector : Connector) : Prop :=
  ∀ call, (connector.attempt call).failure? = none → connector.AddsOwn call

/-- A connector that registers a schema as described, once it has failed a number of times. -/
def Described (connector : Connector) : Prop :=
  ∃ serial name schema failTimes failure,
    connector = .described serial name schema failTimes failure

theorem Described.selfNamed (described : connector.Described) : connector.SelfNamed := by
  obtain ⟨serial, name, schema, failTimes, failure, rfl⟩ := described
  intro call succeeded
  unfold Connector.described at succeeded ⊢
  simp only [AddsOwn] at succeeded ⊢
  split at succeeded
  next => cases succeeded
  next hlast =>
    rw [if_neg hlast]
    exact ⟨_, rfl⟩

end Connector

end FederatedCatalog
