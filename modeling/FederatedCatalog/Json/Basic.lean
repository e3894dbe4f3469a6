import FederatedCatalog.Json.Numeral
import FederatedCatalog.NameMap

namespace FederatedCatalog

inductive Json
  | null
  | bool (value : Bool)
  | number (value : Json.Numeral)
  | string (value? : Option String)
  | array (items : List Json)
  | object (members : List (Option String × Json))

namespace Json

def ofString (s : String) : Json :=
  .string (some s)

def ofNat (n : Nat) : Json :=
  .number (.ofNat n)

def ofStrings (strings : List String) : Json :=
  .array (strings.map ofString)

def ofOption (string? : Option String) : Json :=
  match string? with
  | some s => ofString s
  | none => .null

def ofMembers (members : List (String × Json)) : Json :=
  .object (members.map fun (name, value) => (some name, value))

def bool? : Json → Option Bool
  | .bool value => some value
  | _ => none

def string? : Json → Option String
  | .string value? => value?
  | _ => none

/-- A natural number of at most `limit`. -/
def natUpTo? (limit : Nat) : Json → Option Nat
  | .number numeral => numeral.nat?.filter (· ≤ limit)
  | _ => none

def optionalString? : Json → Option (Option String)
  | .null => some none
  | .string (some s) => some (some s)
  | _ => none

def items? : Json → Option (List Json)
  | .array items => some items
  | _ => none

def strings? (json : Json) : Option (List String) :=
  json.items?.bind fun items => items.mapM string?

/-- The members, if every name is a string of characters. -/
def members? : Json → Option (List (String × Json))
  | .object members => members.mapM fun member => member.1.map (·, member.2)
  | _ => none

/-- The values of the named fields. A field may be missing but not be there twice, and members of
other names are passed over. An array is read as the fields' values in order. -/
def fields? (names : List String) (json : Json) : Option (List (Option Json)) :=
  match json with
  | .array items =>
    if items.length ≤ names.length then
      some (items.map some ++ List.replicate (names.length - items.length) none)
    else none
  | _ =>
    json.members?.bind fun members =>
      names.mapM fun name =>
        match members.filter fun member => member.1 = name with
        | [] => some none
        | [(_, value)] => some (some value)
        | _ => none

def orDefault {α : Type} (default : α) (decode : Json → Option α) : Option Json → Option α
  | none => some default
  | some json => decode json

/-- A map from names, of which the last one counts if one is repeated. -/
def nameMap? {α : Type} (decode : Json → Option α) (json : Json) : Option (NameMap α) :=
  json.members?.bind fun members =>
    (members.mapM fun member => (decode member.2).map (member.1, ·)).map NameMap.ofList

mutual

/-- Whether every string of the value is known, every number is in range, and arrays and objects
are nested at most `depth` deep. -/
def isPlain (depth : Nat) : Json → Bool
  | .null => true
  | .bool _ => true
  | .number numeral => numeral.inRange
  | .string value? => value?.isSome
  | .array items => 0 < depth && itemsPlain (depth - 1) items
  | .object members => 0 < depth && membersPlain (depth - 1) members

def itemsPlain (depth : Nat) : List Json → Bool
  | [] => true
  | item :: rest => isPlain depth item && itemsPlain depth rest

def membersPlain (depth : Nat) : List (Option String × Json) → Bool
  | [] => true
  | (name?, value) :: rest => name?.isSome && isPlain depth value && membersPlain depth rest

end

end Json

end FederatedCatalog
