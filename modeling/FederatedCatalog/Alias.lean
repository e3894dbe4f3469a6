import FederatedCatalog.NameMap
import FederatedCatalog.Path

namespace FederatedCatalog

inductive AliasKind
  | namespaces
  | tables
  deriving DecidableEq

def AliasKind.label : AliasKind → String
  | namespaces => "Namespace"
  | tables => "Table"

/-- The aliases of one kind, with the texts of the paths they stand for. -/
structure AliasSet where
  shared : NameMap String
  owned : NameMap (NameMap String)
  deriving DecidableEq

structure Aliases where
  namespaces : AliasSet
  tables : AliasSet
  deriving DecidableEq

inductive AliasError
  | duplicated (kind : AliasKind) (name : String)
  | invalidTarget (target : String) (cause : PathError)
  deriving DecidableEq

def AliasError.message : AliasError → String
  | duplicated kind name => "duplicated " ++ kind.label ++ " alias: " ++ name
  | invalidTarget target cause =>
    "invalid alias target " ++ Text.quoted target ++ ": " ++ cause.message

/-- Where name lookups ask for aliases: from a user and an alias to the target's text. -/
structure AliasSource where
  namespaceAlias : String → String → Option String
  tableAlias : String → String → Option String

namespace AliasSet

def empty : AliasSet :=
  ⟨[], []⟩

def belonging (set : AliasSet) : Option String → NameMap String
  | none => set.shared
  | some user => (set.owned.get? user).getD []

def setBelonging (set : AliasSet) (owner? : Option String) (aliases : NameMap String) : AliasSet :=
  match owner? with
  | none => { set with shared := aliases }
  | some user => { set with owned := set.owned.put user aliases }

/-- The target of an alias as a user sees it. -/
def target? (set : AliasSet) (user name : String) : Option String :=
  ((set.belonging user).get? name).or (set.shared.get? name)

def visible (set : AliasSet) (user : String) : NameMap String :=
  set.shared.putAll (set.belonging user)

/-- Every target, those of public aliases first. -/
def targets (set : AliasSet) : List String :=
  set.shared.map Prod.snd ++ set.owned.flatMap fun owner => owner.2.map Prod.snd

end AliasSet

namespace Aliases

def empty : Aliases :=
  ⟨.empty, .empty⟩

def ofKind (aliases : Aliases) : AliasKind → AliasSet
  | .namespaces => aliases.namespaces
  | .tables => aliases.tables

def setKind (aliases : Aliases) (kind : AliasKind) (set : AliasSet) : Aliases :=
  match kind with
  | .namespaces => { aliases with namespaces := set }
  | .tables => { aliases with tables := set }

def checkTarget (target : String) : Except AliasError Unit :=
  match Path.parse target with
  | .ok _ => .ok ()
  | .error cause => .error (.invalidTarget target cause)

def checkTargets : List String → Except AliasError Unit
  | [] => .ok ()
  | target :: rest =>
    match checkTarget target with
    | .ok () => checkTargets rest
    | .error e => .error e

/-- Whether every target is a path: the namespaces' targets are looked at first. -/
def check (aliases : Aliases) : Except AliasError Unit :=
  checkTargets (aliases.namespaces.targets ++ aliases.tables.targets)

/-- Adds a public alias, or one that a user owns. -/
def add (aliases : Aliases) (kind : AliasKind) (owner? : Option String) (name target : String) :
    Except AliasError Aliases :=
  match checkTarget target with
  | .error e => .error e
  | .ok () =>
    let own := (aliases.ofKind kind).belonging owner?
    if own.contains name then .error (.duplicated kind name)
    else
      .ok (aliases.setKind kind ((aliases.ofKind kind).setBelonging owner? (own.put name target)))

def remove (aliases : Aliases) (kind : AliasKind) (owner? : Option String) (name : String) :
    Bool × Aliases :=
  let own := (aliases.ofKind kind).belonging owner?
  if own.contains name then
    (true, aliases.setKind kind ((aliases.ofKind kind).setBelonging owner? (own.erase name)))
  else (false, aliases)

def source (aliases : Aliases) : AliasSource :=
  ⟨aliases.namespaces.target?, aliases.tables.target?⟩

end Aliases

end FederatedCatalog
