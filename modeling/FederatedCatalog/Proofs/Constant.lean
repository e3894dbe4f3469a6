import FederatedCatalog.Proofs.Chains
import FederatedCatalog.Proofs.Steady
import FederatedCatalog.Proofs.View

namespace FederatedCatalog

namespace SchemaDescription

/-- The tables of a list, each with its path, without their marks. -/
def seen (tables : List (List String × TableEntry)) : List (List String × TableView) :=
  tables.map fun table => (table.1, table.2.view)

theorem seen_additions (maker call call' : Nat) (place mark : List String)
    (schema : SchemaDescription) :
    seen (Addition.allTables place (schema.additions maker call mark)) =
      seen (Addition.allTables place (schema.additions maker call' mark)) := by
  have alike : ∀ chain, seen (chainTables maker call place mark chain) =
      seen (chainTables maker call' place mark chain) := by
    intro chain
    simp only [seen, chainTables, List.map_map]
    rfl
  rw [allTables_additions, allTables_additions, seen, seen, List.map_flatMap, List.map_flatMap]
  exact congrArg (List.flatMap · schema.chains) (funext alike)

end SchemaDescription

namespace Connector

/-- A steady connector that adds the same in every call, with dotless names directly under its
own. -/
structure Constant (connector : Connector) : Prop extends Steady connector where
  alike : ∀ call call' path, (connector.added call).AlikeAt (connector.added call') path
  shallow : ∀ call {inner kind},
    (connector.added call).kind [Text.lower connector.name, inner] = some kind → Undotted inner

/-- A connector that registers a schema as described and never fails, with a dotless name and
dotless names directly under its own. -/
def Dotless (connector : Connector) : Prop :=
  ∃ serial name schema failure, Undotted name ∧ (∀ entry ∈ schema.schemas, Undotted entry.1) ∧
    connector = .described serial name schema 0 failure

theorem added_described (serial : Nat) (name : String) (schema : SchemaDescription)
    (failure : Failure) (call : Nat) : (described serial name schema 0 failure).added call =
      .ofLists (([name], .schema name) ::
        Addition.allSchemas name [name] (schema.additions serial call []))
        (Addition.allTables [name] (schema.additions serial call [])) := by
  simp [added, described, Content.ofAdditions, Addition.allSchemas, Addition.schemas,
    Addition.allTables, Addition.tables, Tree.openedKind]

theorem added_described_kind (serial : Nat) (name : String) (schema : SchemaDescription)
    (failure : Failure) (call : Nat) {path : List String} (below : path ≠ []) :
    ((described serial name schema 0 failure).added call).kind (Text.lower name :: path) =
      schema.chains.findSome? (SchemaDescription.kindAt name path) := by
  have opened := SchemaDescription.find?_opened [name] path name
    (SchemaDescription.chainsIn schema.schemas)
  rw [added_described, SchemaDescription.allSchemas_additions, SchemaDescription.chains_eq,
    List.findSome?_cons]
  simpa [Content.ofLists, SchemaDescription.kindAt, below.symm] using opened

theorem added_described_below (serial : Nat) (name : String) (schema : SchemaDescription)
    (failure : Failure) (call : Nat) (key : String) :
    ((described serial name schema 0 failure).added call).kind [Text.lower name, key] =
      (schema.schemas.find? fun entry => Text.lower entry.1 = key).map fun entry =>
        Tree.openedKind name entry.2.foreignType? := by
  rw [added_described_kind serial name schema failure call (List.cons_ne_nil key []),
    SchemaDescription.chains_eq, List.findSome?_cons, ← SchemaDescription.findSome?_chainsIn_single]
  rfl

theorem Dotless.constant {connector : Connector} (h : connector.Dotless) : connector.Constant := by
  obtain ⟨serial, name, schema, failure, dotless, shallow, rfl⟩ := h
  have steady : (described serial name schema 0 failure).Steady :=
    Unfailing.steady ⟨serial, name, schema, failure, dotless, rfl⟩
  refine ⟨steady, ?_, ?_⟩
  · intro call call' path
    rw [added_described, added_described, SchemaDescription.allSchemas_additions,
      SchemaDescription.allSchemas_additions]
    apply Content.ofLists_alikeAt
    exact SchemaDescription.seen_additions serial call call' [name] [] schema
  · intro call inner kind hkind
    have listed := (added_described_below serial name schema failure call inner).symm.trans hkind
    obtain ⟨entry, hfind, _⟩ := Option.map_eq_some_iff.mp listed
    have hname := List.find?_some hfind
    rw [← of_decide_eq_true hname]
    exact undotted_lower.mpr (shallow entry (List.mem_of_find?_eq_some hfind))

end Connector

end FederatedCatalog
