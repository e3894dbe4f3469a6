import FederatedCatalog.Text.Quoted

namespace FederatedCatalog

inductive TableType
  | table
  | view
  deriving DecidableEq

/-- What tells one table from every other: the connector that made it, in which of its calls, and
where among the tables made in that call. -/
structure TableMark where
  maker : Nat
  call : Nat
  place : List String
  deriving DecidableEq

/-- What is known of a table's content: the names of its columns, or nothing but a label. -/
inductive TableContent
  | columns (names : List String)
  | labelled (label : String)
  deriving DecidableEq

structure Table where
  mark : TableMark
  type : TableType
  content : TableContent
  deriving DecidableEq

/-- A table under a name, with the text of its definition if it has one. -/
structure TableEntry where
  name : String
  table : Table
  definition? : Option String
  deriving DecidableEq

namespace TableType

def label : TableType → String
  | table => "Table"
  | view => "View"

def code : TableType → String
  | table => "TABLE"
  | view => "VIEW"

end TableType

def Table.text (table : Table) : String :=
  match table.content with
  | .columns names =>
    "MemoryTable \x7b columns: [" ++ ", ".intercalate (names.map Text.quoted) ++ "], table_type: "
      ++ table.type.label ++ " \x7d"
  | .labelled label => "label:" ++ label

namespace TableEntry

def renamed (entry : TableEntry) (name : String) : TableEntry :=
  { entry with name }

def sameTable (a b : TableEntry) : Bool :=
  a.table.mark = b.table.mark

end TableEntry

end FederatedCatalog
