import FederatedCatalog.Proofs.JsonText
import FederatedCatalog.Proofs.NameMap

namespace FederatedCatalog.Json

mutual

/-- How deep arrays and objects are nested in a value. -/
def depth : Json → Nat
  | .array items => itemsDepth items + 1
  | .object members => membersDepth members + 1
  | _ => 0

def itemsDepth : List Json → Nat
  | [] => 0
  | item :: rest => max (depth item) (itemsDepth rest)

def membersDepth : List (Option String × Json) → Nat
  | [] => 0
  | (_, value) :: rest => max (depth value) (membersDepth rest)

end

theorem depth_le_items {item : Json} {items : List Json} (hm : item ∈ items) :
    item.depth ≤ itemsDepth items := by
  induction items with
  | nil => cases hm
  | cons first rest ih =>
    rw [itemsDepth]
    rcases List.mem_cons.mp hm with rfl | hm
    · exact Nat.le_max_left _ _
    · exact Nat.le_trans (ih hm) (Nat.le_max_right _ _)

theorem depth_le_members (member : Option String × Json) {members : List (Option String × Json)}
    (hm : member ∈ members) : member.2.depth ≤ membersDepth members := by
  induction members with
  | nil => cases hm
  | cons first rest ih =>
    rw [membersDepth]
    rcases List.mem_cons.mp hm with rfl | hm
    · exact Nat.le_max_left _ _
    · exact Nat.le_trans (ih hm) (Nat.le_max_right _ _)

/-- What an array or an object is made of. -/
def parts? : Json → Option (List Json)
  | .array items => some items
  | .object members => some (members.map Prod.snd)
  | _ => none

theorem depth_lt_of_parts? {json part : Json} {parts : List Json} (h : json.parts? = some parts)
    (hm : part ∈ parts) : part.depth < json.depth := by
  cases json with
  | array items =>
    cases h
    exact Nat.lt_succ_of_le (depth_le_items hm)
  | object members =>
    cases h
    obtain ⟨member, hmember, rfl⟩ := List.mem_map.mp hm
    exact Nat.lt_succ_of_le (depth_le_members member hmember)
  | _ => cases h

theorem depth_pos_of_parts? {json : Json} {parts : List Json} (h : json.parts? = some parts) :
    0 < json.depth := by
  cases json with
  | array items => exact Nat.succ_pos _
  | object members => exact Nat.succ_pos _
  | _ => cases h

theorem depth_lt_ofMembers {name : String} {json : Json} {members : List (String × Json)}
    (hm : (name, json) ∈ members) : json.depth < (ofMembers members).depth :=
  Nat.lt_succ_of_le (depth_le_members (some name, json) (List.mem_map.mpr ⟨_, hm, rfl⟩))

/-- A value whose strings are known and whose numbers are natural ones of 64 bits. -/
inductive Simple : Json → Prop
  | null : Simple .null
  | bool (value : Bool) : Simple (.bool value)
  | number {n : Nat} (h : n < UInt64.size) : Simple (.number (.ofNat n))
  | string (s : String) : Simple (.string (some s))
  | array {items : List Json} (simple : ∀ item ∈ items, Simple item) : Simple (.array items)
  | object {members : List (String × Json)} (simple : ∀ member ∈ members, Simple member.2) :
    Simple (ofMembers members)

theorem Simple.canonical {json : Json} (simple : json.Simple) : json.Canonical := by
  induction simple with
  | null => exact .null
  | bool value => exact .bool value
  | number => exact .number (Numeral.canonical_ofNat _)
  | string s => exact .string s
  | array _ ih => exact .array ih
  | object _ ih =>
    refine .object fun member hm => ?_
    obtain ⟨named, inside, rfl⟩ := List.mem_map.mp hm
    exact ih named inside

theorem simple_ofOption (string? : Option String) : Simple (ofOption string?) := by
  cases string? with
  | none => exact .null
  | some s => exact .string s

theorem simple_ofStrings (strings : List String) : Simple (ofStrings strings) := by
  refine .array fun item hm => ?_
  obtain ⟨s, _, rfl⟩ := List.mem_map.mp hm
  exact .string s

section Decoding

variable {α β γ : Type}

theorem simple_entries {encode : α → Json} {entries : List (String × α)}
    (simple : ∀ entry ∈ entries, (encode entry.2).Simple) :
    Simple (ofMembers (entries.map fun (name, a) => (name, encode a))) := by
  refine .object fun member hm => ?_
  obtain ⟨entry, hentry, rfl⟩ := List.mem_map.mp hm
  exact simple entry hentry

theorem depth_lt_entries (encode : α → Json) {entry : String × α} {entries : List (String × α)}
    (hm : entry ∈ entries) : (encode entry.2).depth <
      (ofMembers (entries.map fun (name, a) => (name, encode a))).depth := by
  have member : (entry.1, encode entry.2) ∈ entries.map fun (name, a) => (name, encode a) :=
    List.mem_map.mpr ⟨entry, hm, rfl⟩
  exact depth_lt_ofMembers member

theorem mapM_encoded {encode : α → β} {decode : β → Option γ} {value : α → γ} {list : List α}
    (decodes : ∀ a ∈ list, decode (encode a) = some (value a)) :
    (list.map encode).mapM decode = some (list.map value) := by
  induction list with
  | nil => rfl
  | cons a rest ih =>
    obtain ⟨first, others⟩ := List.forall_mem_cons.mp decodes
    rw [List.map_cons, List.mapM_cons, first, ih others]
    rfl

theorem members?_ofMembers (members : List (String × Json)) :
    (ofMembers members).members? = some members := by
  have decoded : (members.map fun member => (some member.1, member.2)).mapM
      (fun member : Option String × Json => member.1.map (·, member.2)) =
      some (members.map fun member => member) :=
    mapM_encoded fun member _ => rfl
  rw [List.map_id'] at decoded
  exact decoded

theorem filter_name {members : List (String × α)} (nodup : (NameMap.keys members).Nodup)
    (name : String) : (members.filter fun member => member.1 = name) =
      ((NameMap.get? name members).map (name, ·)).toList := by
  induction members with
  | nil => rfl
  | cons first rest ih =>
    obtain ⟨key, value⟩ := first
    obtain ⟨hkey, hrest⟩ := List.nodup_cons.mp nodup
    by_cases h : key = name
    · subst h
      rw [List.filter_cons_of_pos (by simp), ih hrest, NameMap.get?_eq_none_of_not_mem hkey]
      simp [NameMap.get?]
    · rw [List.filter_cons_of_neg (by simpa using h), ih hrest]
      simp [NameMap.get?, h]

theorem fields?_ofMembers (names : List String) {members : List (String × Json)}
    (nodup : (NameMap.keys members).Nodup) : (ofMembers members).fields? names =
      some (names.map fun name => NameMap.get? name members) := by
  show (ofMembers members).members?.bind _ = _
  rw [members?_ofMembers, Option.bind_some]
  refine Eq.trans (congrArg names.mapM (funext fun name => ?_)) List.mapM_pure
  show _ = some (NameMap.get? name members)
  rw [filter_name nodup]
  cases NameMap.get? name members <;> rfl

theorem nameMap?_ofMembers (encode : β → Json) {decode : Json → Option α} (value : β → α)
    {entries : List (String × β)}
    (decodes : ∀ entry ∈ entries, decode (encode entry.2) = some (value entry.2)) :
    nameMap? decode (ofMembers (entries.map fun (name, b) => (name, encode b))) =
      some (NameMap.ofList (entries.map fun (name, b) => (name, value b))) := by
  have decoded : (entries.map fun (name, b) => (name, encode b)).mapM
      (fun member : String × Json => (decode member.2).map (member.1, ·)) =
      some (entries.map fun (name, b) => (name, value b)) := by
    apply mapM_encoded
    intro entry hm
    rw [decodes entry hm]
    rfl
  rw [nameMap?, members?_ofMembers, Option.bind_some, decoded]
  rfl

theorem nameMap?_entries (encode : α → Json) {decode : Json → Option α}
    {entries : List (String × α)}
    (decodes : ∀ entry ∈ entries, decode (encode entry.2) = some entry.2) :
    nameMap? decode (ofMembers (entries.map fun (name, a) => (name, encode a))) =
      some (NameMap.ofList entries) := by
  have same : (entries.map fun (name, a) => (name, a)) = entries := List.map_id' entries
  rw [nameMap?_ofMembers encode (fun a => a) decodes, same]

theorem natUpTo?_ofNat {limit n : Nat} (h : n ≤ limit) : natUpTo? limit (ofNat n) = some n := by
  have nat : natUpTo? limit (ofNat n) = (Numeral.ofNat n).nat?.filter (· ≤ limit) := rfl
  rw [nat, Numeral.nat?_ofNat]
  simp [h]

theorem optionalString?_ofOption (string? : Option String) :
    optionalString? (ofOption string?) = some string? := by
  cases string? <;> rfl

theorem strings?_ofStrings (strings : List String) :
    strings? (ofStrings strings) = some strings := by
  have decoded : (strings.map ofString).mapM string? = some (strings.map fun s => s) :=
    mapM_encoded fun s _ => rfl
  rw [List.map_id'] at decoded
  exact decoded

theorem exists_of_mapM {f : α → Option β} {list : List α} {results : List β}
    (h : list.mapM f = some results) {b : β} (hb : b ∈ results) : ∃ a ∈ list, f a = some b := by
  induction list generalizing results with
  | nil =>
    cases h
    cases hb
  | cons a rest ih =>
    rw [List.mapM_cons] at h
    obtain ⟨first, hfirst, h⟩ := Option.bind_eq_some_iff.mp h
    obtain ⟨others, hothers, h⟩ := Option.bind_eq_some_iff.mp h
    cases h
    rcases List.mem_cons.mp hb with rfl | hb
    · exact ⟨a, List.mem_cons_self, hfirst⟩
    · obtain ⟨source, hm, eq⟩ := ih hothers hb
      exact ⟨source, List.mem_cons_of_mem a hm, eq⟩

theorem forall_of_mapM {f : α → Option β} {list : List α} {results : List β}
    (h : list.mapM f = some results) {a : α} (ha : a ∈ list) : ∃ b, f a = some b := by
  induction list generalizing results with
  | nil => cases ha
  | cons first rest ih =>
    rw [List.mapM_cons] at h
    obtain ⟨b, hfirst, h⟩ := Option.bind_eq_some_iff.mp h
    obtain ⟨others, hothers, _⟩ := Option.bind_eq_some_iff.mp h
    rcases List.mem_cons.mp ha with rfl | ha
    · exact ⟨b, hfirst⟩
    · exact ih hothers ha

theorem parts_of_members? {json : Json} {members : List (String × Json)}
    (h : json.members? = some members) :
    ∃ parts, json.parts? = some parts ∧ ∀ member ∈ members, member.2 ∈ parts := by
  cases json with
  | object entries =>
    refine ⟨_, rfl, fun member hm => ?_⟩
    obtain ⟨entry, hentry, eq⟩ := exists_of_mapM h hm
    obtain ⟨name, _, rfl⟩ := Option.map_eq_some_iff.mp eq
    exact List.mem_map.mpr ⟨entry, hentry, rfl⟩
  | _ => cases h

theorem depth_lt_of_members? {json : Json} {members : List (String × Json)}
    (h : json.members? = some members) {member : String × Json} (hm : member ∈ members) :
    member.2.depth < json.depth := by
  obtain ⟨parts, hparts, values⟩ := parts_of_members? h
  exact depth_lt_of_parts? hparts (values member hm)

theorem parts_of_fields? {names : List String} {json : Json} {fields : List (Option Json)}
    (h : json.fields? names = some fields) :
    ∃ parts, json.parts? = some parts ∧ ∀ field, some field ∈ fields → field ∈ parts := by
  cases json with
  | array items =>
    refine ⟨items, rfl, fun field hm => ?_⟩
    unfold fields? at h
    simp only at h
    split at h
    next =>
      cases h
      rcases List.mem_append.mp hm with hm | hm
      · obtain ⟨item, hitem, eq⟩ := List.mem_map.mp hm
        cases eq
        exact hitem
      · cases (List.mem_replicate.mp hm).2
    next => cases h
  | object entries =>
    obtain ⟨members, hmembers, hfields⟩ := Option.bind_eq_some_iff.mp h
    obtain ⟨parts, hparts, values⟩ := parts_of_members? hmembers
    refine ⟨parts, hparts, fun field hm => ?_⟩
    obtain ⟨name, _, eq⟩ := exists_of_mapM hfields hm
    split at eq
    next => cases eq
    next key value hfilter =>
      cases eq
      have listed : (key, field) ∈ members.filter fun member => member.1 = name := by
        rw [hfilter]
        exact List.mem_singleton_self _
      exact values (key, field) (List.mem_filter.mp listed).1
    next => cases eq
  | _ => cases h

variable {decode : Json → Option α} {map : NameMap α}

theorem orDefault_of {p : α → Prop} {default : α} {field? : Option Json} {a : α}
    (read : orDefault default decode field? = some a) (missing : p default)
    (given : ∀ json, decode json = some a → p a) : p a := by
  cases field? with
  | none =>
    cases read
    exact missing
  | some json => exact given json read

theorem sorted_of_nameMap? {json : Json} (read : nameMap? decode json = some map) :
    map.Sorted := by
  obtain ⟨members, _, read⟩ := Option.bind_eq_some_iff.mp read
  obtain ⟨entries, _, rfl⟩ := Option.map_eq_some_iff.mp read
  exact NameMap.sorted_putAll entries .nil

variable {field? : Option Json}

theorem sorted_of_field (read : orDefault [] (nameMap? decode) field? = some map) : map.Sorted :=
  orDefault_of read .nil fun _ => sorted_of_nameMap?

theorem exists_of_field {entry : String × α}
    (read : orDefault [] (nameMap? decode) field? = some map) (hm : entry ∈ map) :
    ∃ json inner, field? = some json ∧ inner.depth < json.depth ∧ decode inner = some entry.2 := by
  cases field? with
  | none =>
    cases read
    cases hm
  | some json =>
    obtain ⟨members, hmembers, h⟩ := Option.bind_eq_some_iff.mp read
    obtain ⟨entries, hentries, rfl⟩ := Option.map_eq_some_iff.mp h
    have listed : entry ∈ entries := (NameMap.mem_putAll hm).resolve_right (by simp)
    obtain ⟨member, hmember, eq⟩ := exists_of_mapM hentries listed
    obtain ⟨a, ha, rfl⟩ := Option.map_eq_some_iff.mp eq
    exact ⟨json, member.2, rfl, depth_lt_of_members? hmembers hmember, ha⟩

theorem forall_of_field {p : α → Prop} (read : orDefault [] (nameMap? decode) field? = some map)
    (inside : ∀ json a, decode json = some a → p a) : ∀ entry ∈ map, p entry.2 := by
  intro entry hm
  obtain ⟨_, inner, _, _, decoded⟩ := exists_of_field read hm
  exact inside inner entry.2 decoded

end Decoding

end FederatedCatalog.Json
