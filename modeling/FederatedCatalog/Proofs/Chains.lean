import FederatedCatalog.Description.Schema
import FederatedCatalog.Proofs.Content

namespace FederatedCatalog

namespace Addition

theorem allSchemas_append (connector : String) (place : List String)
    (first second : List Addition) :
    allSchemas connector place (first ++ second) =
      allSchemas connector place first ++ allSchemas connector place second := by
  induction first with
  | nil => rfl
  | cons addition rest ih => simp [allSchemas, ih]

theorem allTables_append (place : List String) (first second : List Addition) :
    allTables place (first ++ second) = allTables place first ++ allTables place second := by
  induction first with
  | nil => rfl
  | cons addition rest ih => simp [allTables, ih]

end Addition

namespace SchemaDescription

/-- Names of schemas one inside the other lead from a description to another one. -/
inductive Chain : SchemaDescription → List String → SchemaDescription → Prop
  | here (schema : SchemaDescription) : Chain schema [] schema
  | down {schema inner last : SchemaDescription} {name : String} {names : List String}
      (listed : (name, inner) ∈ schema.schemas) (chain : Chain inner names last) :
      Chain schema (name :: names) last

mutual

/-- All schemas of a description with the names that lead to them, each before those inside it. -/
def chains : SchemaDescription → List (List String × SchemaDescription)
  | ⟨schemas, tables, foreignType?⟩ => ([], ⟨schemas, tables, foreignType?⟩) :: chainsIn schemas

def chainsIn : List (String × SchemaDescription) → List (List String × SchemaDescription)
  | [] => []
  | (name, schema) :: rest =>
    schema.chains.map (fun chain => (name :: chain.1, chain.2)) ++ chainsIn rest

end

theorem chains_eq (schema : SchemaDescription) :
    schema.chains = ([], schema) :: chainsIn schema.schemas := by
  obtain ⟨schemas, tables, foreignType?⟩ := schema
  rfl

theorem mem_chainsIn {schemas : List (String × SchemaDescription)} {names : List String}
    {last : SchemaDescription} : (names, last) ∈ chainsIn schemas ↔
      ∃ name inner rest, (name, inner) ∈ schemas ∧ names = name :: rest ∧
        (rest, last) ∈ inner.chains := by
  induction schemas with
  | nil => simp [chainsIn]
  | cons entry others ih =>
    obtain ⟨key, schema⟩ := entry
    rw [chainsIn, List.mem_append, ih]
    constructor
    · rintro (h | ⟨name, inner, rest, hm, heq, hrest⟩)
      · obtain ⟨⟨rest, found⟩, hrest, heq⟩ := List.mem_map.mp h
        cases heq
        exact ⟨key, schema, rest, by simp, rfl, hrest⟩
      · exact ⟨name, inner, rest, List.mem_cons_of_mem _ hm, heq, hrest⟩
    · rintro ⟨name, inner, rest, hm, rfl, hrest⟩
      rcases List.mem_cons.mp hm with heq | hm
      · cases heq
        exact Or.inl (List.mem_map.mpr ⟨(rest, last), hrest, rfl⟩)
      · exact Or.inr ⟨name, inner, rest, hm, rfl, hrest⟩

theorem mem_chains {schema last : SchemaDescription} {names : List String} :
    (names, last) ∈ schema.chains ↔ schema.Chain names last := by
  induction names generalizing schema with
  | nil =>
    rw [chains_eq, List.mem_cons, mem_chainsIn]
    constructor
    · rintro (heq | ⟨_, _, _, _, heq, _⟩)
      · cases heq
        exact .here _
      · cases heq
    · intro chain
      cases chain
      exact Or.inl rfl
  | cons name rest ih =>
    rw [chains_eq, List.mem_cons, mem_chainsIn]
    constructor
    · rintro (heq | ⟨_, inner, _, hm, heq, hrest⟩)
      · cases heq
      · cases heq
        exact .down hm (ih.mp hrest)
    · intro chain
      cases chain with
      | down listed chain => exact Or.inr ⟨name, _, rest, listed, rfl, ih.mpr chain⟩

section Additions

variable (maker call : Nat)

theorem allSchemas_tableAdditions (connector : String) (place : List String) (mark : List String)
    (tables : List (String × TableDescription)) :
    Addition.allSchemas connector place (tableAdditions maker call mark tables) = [] := by
  induction tables with
  | nil => rfl
  | cons table rest ih => exact ih

mutual

theorem allSchemas_additions (connector : String) (place mark : List String)
    (schema : SchemaDescription) :
    Addition.allSchemas connector place (schema.additions maker call mark) =
      (chainsIn schema.schemas).map fun chain =>
        (place ++ chain.1, Tree.openedKind connector chain.2.foreignType?) := by
  match schema with
  | ⟨schemas, tables, foreignType?⟩ =>
    rw [additions, Addition.allSchemas_append, allSchemas_tableAdditions, List.nil_append,
      allSchemas_schemaAdditions connector place mark schemas]

theorem allSchemas_schemaAdditions (connector : String) (place mark : List String)
    (schemas : List (String × SchemaDescription)) :
    Addition.allSchemas connector place (schemaAdditions maker call mark schemas) =
      (chainsIn schemas).map fun chain =>
        (place ++ chain.1, Tree.openedKind connector chain.2.foreignType?) := by
  match schemas with
  | [] => rfl
  | (name, schema) :: rest =>
    have inside := allSchemas_additions connector (place ++ [name]) (mark ++ [name]) schema
    have others := allSchemas_schemaAdditions connector place mark rest
    simp only [schemaAdditions, Addition.allSchemas, Addition.schemas, chainsIn, chains_eq schema,
      inside, others, List.map_append, List.map_cons, List.map_map, Function.comp_def,
      List.append_assoc, List.singleton_append]

end

def chainTables (place mark : List String) (chain : List String × SchemaDescription) :
    List (List String × TableEntry) :=
  chain.2.tables.map fun (title, table) =>
    (place ++ chain.1, table.entry title ⟨maker, call, mark ++ chain.1 ++ [title]⟩)

theorem chainTables_shift (place mark : List String) (name : String) :
    chainTables maker call (place ++ [name]) (mark ++ [name]) =
      fun chain => chainTables maker call place mark (name :: chain.1, chain.2) := by
  funext chain
  simp [chainTables]

theorem allTables_tableAdditions (place mark : List String)
    (tables : List (String × TableDescription)) :
    Addition.allTables place (tableAdditions maker call mark tables) =
      tables.map fun (title, table) =>
        (place, table.entry title ⟨maker, call, mark ++ [title]⟩) := by
  induction tables with
  | nil => rfl
  | cons table rest ih => exact congrArg (List.cons _) ih

mutual

theorem allTables_additions (place mark : List String) (schema : SchemaDescription) :
    Addition.allTables place (schema.additions maker call mark) =
      schema.chains.flatMap (chainTables maker call place mark) := by
  match schema with
  | ⟨schemas, tables, foreignType?⟩ =>
    rw [additions, Addition.allTables_append, allTables_tableAdditions,
      allTables_schemaAdditions place mark schemas, chains_eq, List.flatMap_cons]
    simp [chainTables]

theorem allTables_schemaAdditions (place mark : List String)
    (schemas : List (String × SchemaDescription)) :
    Addition.allTables place (schemaAdditions maker call mark schemas) =
      (chainsIn schemas).flatMap (chainTables maker call place mark) := by
  match schemas with
  | [] => rfl
  | (name, schema) :: rest =>
    have inside := allTables_additions (place ++ [name]) (mark ++ [name]) schema
    have others := allTables_schemaAdditions place mark rest
    simp only [schemaAdditions, Addition.allTables, Addition.tables, chainsIn, inside, others,
      List.flatMap_append, List.flatMap_map, chainTables_shift]

end

end Additions

/-- The kind of a schema that lies at a path in lower case. -/
def kindAt (connector : String) (path : List String) (chain : List String × SchemaDescription) :
    Option NodeKind :=
  if chain.1.map Text.lower = path then some (Tree.openedKind connector chain.2.foreignType?)
  else none

/-- The table under a title in a schema that lies at a path in lower case. -/
def tableAt (maker call : Nat) (path : List String) (title : String)
    (chain : List String × SchemaDescription) : Option TableEntry :=
  if chain.1.map Text.lower = path then
    (NameMap.get? title chain.2.tables).map fun table =>
      table.entry title ⟨maker, call, chain.1 ++ [title]⟩
  else none

section Found

variable (place path : List String)

/-- The first of the schemas that a connector opens at a place, as they are listed. -/
theorem find?_opened (connector : String) (chains : List (List String × SchemaDescription)) :
    ((chains.map fun chain =>
        (place ++ chain.1, Tree.openedKind connector chain.2.foreignType?)).find? fun opened =>
          opened.1.map Text.lower = place.map Text.lower ++ path).map Prod.snd =
      chains.findSome? (kindAt connector path) := by
  induction chains with
  | nil => rfl
  | cons chain rest ih =>
    by_cases hpath : chain.1.map Text.lower = path
    · simp [kindAt, hpath]
    · simpa [kindAt, hpath] using ih

theorem find?_chainTables (maker call : Nat) (chain : List String × SchemaDescription)
    (title : String) :
    ((chainTables maker call place [] chain).find? fun table =>
        table.1.map Text.lower = place.map Text.lower ++ path ∧ table.2.name = title).map Prod.snd =
      tableAt maker call path title chain := by
  obtain ⟨names, schemas, tables, foreignType?⟩ := chain
  unfold tableAt
  by_cases hpath : names.map Text.lower = path
  · rw [if_pos hpath]
    induction tables with
    | nil => rfl
    | cons first rest ih =>
      obtain ⟨key, table⟩ := first
      by_cases hkey : key = title
      · simp [chainTables, NameMap.get?, hpath, hkey, TableDescription.entry]
      · simpa [chainTables, NameMap.get?, hpath, hkey, TableDescription.entry] using ih
  · rw [if_neg hpath, Option.map_eq_none_iff, List.find?_eq_none]
    intro table hm
    obtain ⟨entry, _, rfl⟩ := List.mem_map.mp hm
    simp [hpath]

end Found

theorem findSome?_chainsIn_single (connector : String) (schemas : List (String × SchemaDescription))
    (key : String) : (chainsIn schemas).findSome? (kindAt connector [key]) =
      (schemas.find? fun entry => Text.lower entry.1 = key).map fun entry =>
        Tree.openedKind connector entry.2.foreignType? := by
  induction schemas with
  | nil => rfl
  | cons entry rest ih =>
    obtain ⟨name, schema⟩ := entry
    rw [chainsIn, List.findSome?_append, ih]
    by_cases hname : Text.lower name = key
    · simp [chains_eq schema, kindAt, hname]
    · have missed : ((schema.chains.map fun chain => (name :: chain.1, chain.2)).findSome?
          (kindAt connector [key])) = none := by
        rw [List.findSome?_eq_none_iff]
        intro chain hm
        obtain ⟨inner, _, rfl⟩ := List.mem_map.mp hm
        simp [kindAt, hname]
      rw [missed, List.find?_cons_of_neg (by simpa using hname), Option.none_or]

end SchemaDescription

end FederatedCatalog
