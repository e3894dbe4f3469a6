import FederatedCatalog.Connector.Basic

namespace FederatedCatalog

structure TableDescription where
  columns : List String
  view? : Option String
  deriving DecidableEq

/-- The schemas and tables of a schema by name, and its type if it is a foreign one. -/
structure SchemaDescription where
  schemas : List (String × SchemaDescription)
  tables : List (String × TableDescription)
  foreignType? : Option String

namespace TableDescription

def entry (description : TableDescription) (name : String) (mark : TableMark) : TableEntry where
  name := name
  table := ⟨mark, if description.view?.isSome then .view else .table, .columns description.columns⟩
  definition? := description.view?

end TableDescription

namespace SchemaDescription

def empty : SchemaDescription :=
  ⟨[], [], none⟩

def tableAdditions (maker call : Nat) (place : List String)
    (tables : List (String × TableDescription)) : List Addition :=
  tables.map fun (name, table) => .table (table.entry name ⟨maker, call, place ++ [name]⟩)

mutual

/-- What a connector adds inside a schema at `place`: the tables first, then the schemas, each with
all that is inside it. -/
def additions (maker call : Nat) (place : List String) : SchemaDescription → List Addition
  | ⟨schemas, tables, _⟩ =>
    tableAdditions maker call place tables ++ schemaAdditions maker call place schemas

def schemaAdditions (maker call : Nat) (place : List String) :
    List (String × SchemaDescription) → List Addition
  | [] => []
  | (name, schema) :: rest =>
    .schema name schema.foreignType? (additions maker call (place ++ [name]) schema)
      :: schemaAdditions maker call place rest

end

mutual

def same : SchemaDescription → SchemaDescription → Bool
  | ⟨schemas, tables, foreignType?⟩, ⟨schemas', tables', foreignType?'⟩ =>
    sameAll schemas schemas' && tables = tables' && foreignType? = foreignType?'

def sameAll : List (String × SchemaDescription) → List (String × SchemaDescription) → Bool
  | [], [] => true
  | (name, schema) :: rest, (name', schema') :: rest' =>
    name = name' && same schema schema' && sameAll rest rest'
  | _, _ => false

end

instance : BEq SchemaDescription :=
  ⟨same⟩

end SchemaDescription

/-- A connector that registers a schema of its own name, as described. Its first `failTimes` calls
fail and add nothing. -/
def Connector.described (serial : Nat) (name : String) (schema : SchemaDescription)
    (failTimes : UInt32) (failure : Failure) : Connector where
  serial := serial
  name := name
  attempt := fun call =>
    if call < failTimes.toNat then ⟨[], some failure⟩
    else ⟨[.schema name none (schema.additions serial call [])], none⟩

/-- How often a connector fails that was told to fail always. -/
def Connector.failAlways : UInt32 :=
  UInt32.ofNat (UInt32.size - 1)

end FederatedCatalog
