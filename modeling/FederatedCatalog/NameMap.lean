namespace FederatedCatalog

abbrev NameMap (α : Type) := List (String × α)

namespace NameMap

variable {α : Type}

def get? (name : String) : NameMap α → Option α
  | [] => none
  | (key, value) :: rest => if key = name then some value else get? name rest

def contains (name : String) (map : NameMap α) : Bool :=
  (get? name map).isSome

/-- Binds the name to the value, in place of what it was bound to. -/
def put (name : String) (value : α) : NameMap α → NameMap α
  | [] => [(name, value)]
  | (key, old) :: rest =>
    if name < key then (name, value) :: (key, old) :: rest
    else if key = name then (name, value) :: rest
    else (key, old) :: put name value rest

/-- Binds the name to the value unless it is bound already. -/
def putNew (name : String) (value : α) (map : NameMap α) : NameMap α :=
  if contains name map then map else put name value map

def erase (name : String) (map : NameMap α) : NameMap α :=
  map.filter fun entry => entry.1 ≠ name

def keys (map : NameMap α) : List String :=
  map.map Prod.fst

def putAll (map : NameMap α) (entries : List (String × α)) : NameMap α :=
  entries.foldl (fun map entry => put entry.1 entry.2 map) map

/-- Of several values for one name the last is kept. -/
def ofList (entries : List (String × α)) : NameMap α :=
  putAll [] entries

def Sorted (map : NameMap α) : Prop :=
  map.Pairwise fun a b => a.1 < b.1

@[simp] theorem get?_put_self (name : String) (value : α) (map : NameMap α) :
    get? name (put name value map) = some value := by
  induction map with
  | nil => simp [put, get?]
  | cons entry rest ih =>
    obtain ⟨key, old⟩ := entry
    unfold put
    split
    next => simp [get?]
    next =>
      split
      next => simp [get?]
      next h => simp [get?, h, ih]

theorem get?_put_of_ne {name other : String} (value : α) (map : NameMap α) (h : name ≠ other) :
    get? other (put name value map) = get? other map := by
  induction map with
  | nil => simp [put, get?, h]
  | cons entry rest ih =>
    obtain ⟨key, old⟩ := entry
    unfold put
    split
    next => simp [get?, h]
    next =>
      split
      next eq => simp [get?, eq, h]
      next => simp [get?, ih]

@[simp] theorem get?_erase_self (name : String) (map : NameMap α) :
    get? name (erase name map) = none := by
  induction map with
  | nil => rfl
  | cons entry rest ih =>
    unfold erase at ih ⊢
    by_cases h : entry.1 = name
    · simpa [h] using ih
    · rw [List.filter_cons_of_pos (by simp [h])]
      simpa [get?, h] using ih

theorem get?_erase_of_ne {name other : String} (map : NameMap α) (h : name ≠ other) :
    get? other (erase name map) = get? other map := by
  induction map with
  | nil => rfl
  | cons entry rest ih =>
    unfold erase at ih ⊢
    by_cases eq : entry.1 = name
    · rw [List.filter_cons_of_neg (by simp [eq]), ih]
      simp [get?, eq, h]
    · rw [List.filter_cons_of_pos (by simp [eq])]
      simp only [get?, ih]

end NameMap

end FederatedCatalog
