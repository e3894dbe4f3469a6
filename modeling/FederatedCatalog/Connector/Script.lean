import FederatedCatalog.Connector.Basic

namespace FederatedCatalog

/-- A table known by a label. -/
structure LabelledTable where
  name : String
  label : String
  isView : Bool
  definition? : Option String
  deriving DecidableEq

/-- Schemas opened one inside the other, the last of them of a foreign type if one is given, and the
tables that are added to the last one. -/
structure Opening where
  path : List String
  foreignType? : Option String
  tables : List LabelledTable
  deriving DecidableEq

structure ScriptedCall where
  openings : List Opening
  failure? : Option Failure
  deriving DecidableEq

def LabelledTable.entry (table : LabelledTable) (mark : TableMark) : TableEntry where
  name := table.name
  table := ⟨mark, if table.isView then .view else .table, .labelled table.label⟩
  definition? := table.definition?

namespace Opening

def nest (foreignType? : Option String) (inside : List Addition) : List String → List Addition
  | [] => inside
  | [name] => [.schema name foreignType? inside]
  | name :: next :: rest => [.schema name none (nest foreignType? inside (next :: rest))]

def additions (maker call number : Nat) (opening : Opening) : List Addition :=
  let tables := opening.tables.zipIdx.map fun (table, index) =>
    Addition.table (table.entry ⟨maker, call, [toString number, toString index]⟩)
  nest opening.foreignType? tables opening.path

end Opening

def ScriptedCall.attempt (maker call : Nat) (scripted : ScriptedCall) : Attempt where
  additions := scripted.openings.zipIdx.flatMap fun (opening, number) =>
    opening.additions maker call number
  failure? := scripted.failure?

/-- A connector whose calls are scripted one by one. Further calls are like the last one, and
without a script a connector adds nothing and succeeds. -/
def Connector.scripted (serial : Nat) (name : String) (script : List ScriptedCall) :
    Connector where
  serial := serial
  name := name
  attempt := fun call =>
    match (script[call]?).or script.getLast? with
    | some scripted => scripted.attempt serial call
    | none => ⟨[], none⟩

end FederatedCatalog
