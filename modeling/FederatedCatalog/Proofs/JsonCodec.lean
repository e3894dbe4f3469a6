import FederatedCatalog.Json.Codec
import FederatedCatalog.Proofs.JsonFields

namespace FederatedCatalog

open Json

namespace Json

theorem itemsDepth_le {limit : Nat} {items : List Json} :
    itemsDepth items ≤ limit ↔ ∀ item ∈ items, item.depth ≤ limit := by
  induction items with
  | nil => simp [itemsDepth]
  | cons item rest ih => rw [itemsDepth, Nat.max_le, List.forall_mem_cons, ih]

theorem membersDepth_le {limit : Nat} {members : List (Option String × Json)} :
    membersDepth members ≤ limit ↔ ∀ member ∈ members, member.2.depth ≤ limit := by
  induction members with
  | nil => simp [membersDepth]
  | cons member rest ih => rw [membersDepth, Nat.max_le, List.forall_mem_cons, ih]

theorem itemsPlain_of_forall {depth : Nat} {items : List Json}
    (h : ∀ item ∈ items, item.isPlain depth = true) : itemsPlain depth items = true := by
  induction items with
  | nil => rfl
  | cons item rest ih =>
    obtain ⟨first, others⟩ := List.forall_mem_cons.mp h
    rw [itemsPlain, first, ih others]
    rfl

theorem membersPlain_of_forall {depth : Nat} {members : List (String × Json)}
    (h : ∀ member ∈ members, member.2.isPlain depth = true) :
    membersPlain depth (members.map fun (name, value) => (some name, value)) = true := by
  induction members with
  | nil => rfl
  | cons member rest ih =>
    obtain ⟨first, others⟩ := List.forall_mem_cons.mp h
    rw [List.map_cons, membersPlain, first, ih others]
    rfl

theorem Simple.isPlain {json : Json} (simple : json.Simple) {depth : Nat}
    (shallow : json.depth ≤ depth) : json.isPlain depth = true := by
  induction simple generalizing depth with
  | null => rfl
  | bool value => rfl
  | number h => exact Numeral.inRange_ofNat h
  | string s => rfl
  | @array items _ ih =>
    obtain ⟨depth, rfl⟩ := Nat.exists_eq_add_one_of_ne_zero (Nat.ne_zero_of_lt shallow)
    have inside : itemsPlain depth items = true := itemsPlain_of_forall fun item hm =>
      ih item hm (Nat.le_trans (depth_le_items hm) (Nat.le_of_succ_le_succ shallow))
    simpa [Json.isPlain] using inside
  | @object members _ ih =>
    obtain ⟨depth, rfl⟩ := Nat.exists_eq_add_one_of_ne_zero (Nat.ne_zero_of_lt shallow)
    have inside := membersPlain_of_forall fun member hm =>
      ih member hm (Nat.le_of_lt_succ (Nat.lt_of_lt_of_le (depth_lt_ofMembers hm) shallow))
    simpa [ofMembers, Json.isPlain] using inside

theorem forall_of_itemsPlain {limit : Nat} {items : List Json}
    (h : itemsPlain limit items = true) : ∀ item ∈ items, item.isPlain limit = true := by
  induction items with
  | nil => simp
  | cons item rest ih =>
    simp only [itemsPlain, Bool.and_eq_true] at h
    exact List.forall_mem_cons.mpr ⟨h.1, ih h.2⟩

theorem forall_of_membersPlain {limit : Nat} {members : List (Option String × Json)}
    (h : membersPlain limit members = true) :
    ∀ member ∈ members, member.2.isPlain limit = true := by
  induction members with
  | nil => simp
  | cons member rest ih =>
    simp only [membersPlain, Bool.and_eq_true] at h
    exact List.forall_mem_cons.mpr ⟨h.1.2, ih h.2⟩

theorem depth_le_of_isPlain {limit : Nat} {json : Json} (plain : json.isPlain limit = true) :
    json.depth ≤ limit := by
  induction limit generalizing json with
  | zero =>
    cases json with
    | array items => cases plain
    | object members => cases plain
    | _ => exact Nat.zero_le _
  | succ limit ih =>
    cases json with
    | array items =>
      have inside : itemsPlain limit items = true := by simpa [isPlain] using plain
      exact Nat.succ_le_succ
        (itemsDepth_le.mpr fun item hm => ih (forall_of_itemsPlain inside item hm))
    | object members =>
      have inside : membersPlain limit members = true := by simpa [isPlain] using plain
      exact Nat.succ_le_succ
        (membersDepth_le.mpr fun member hm => ih (forall_of_membersPlain inside member hm))
    | _ => exact Nat.zero_le _

end Json

/-- What is documented of reading and writing JSON. A value is read back from its text; a record's
fields are found by their names, and are parts of the value; and a value is taken whole unless it is
nested too deep. -/
structure JsonCodec.Lawful (codec : JsonCodec) : Prop where
  read_write {json : Json} (simple : json.Simple) : codec.read (codec.write json) = some json
  /-- A member of a name that is not asked for is passed over. -/
  fields?_ofMembers (names : List String) {members : List (String × Json)}
    (nodup : (NameMap.keys members).Nodup) : codec.fields? names (ofMembers members) =
      some (names.map fun name => NameMap.get? name members)
  parts_of_fields? {names : List String} {json : Json} {fields : List (Option Json)}
    (h : codec.fields? names json = some fields) :
    ∃ parts, json.parts? = some parts ∧ ∀ field, some field ∈ fields → field ∈ parts
  admits_simple {json : Json} (simple : json.Simple) {depth : Nat} (shallow : json.depth ≤ depth) :
    codec.admits depth json = true
  depth_le_of_admits {json : Json} {depth : Nat} (admitted : codec.admits depth json = true) :
    json.depth ≤ depth
  nestingLimit_eq : codec.nestingLimit = 127

namespace JsonCodec

theorem standard_lawful : standard.Lawful where
  read_write simple := Json.read_write simple.canonical
  fields?_ofMembers names _ nodup := Json.fields?_ofMembers names nodup
  parts_of_fields? h := Json.parts_of_fields? h
  admits_simple simple _ shallow := simple.isPlain shallow
  depth_le_of_admits admitted := depth_le_of_isPlain admitted
  nestingLimit_eq := rfl

variable {codec : JsonCodec} {names : List String} {json : Json} {fields : List (Option Json)}

theorem Lawful.depth_lt_of_fields? (lawful : codec.Lawful)
    (h : codec.fields? names json = some fields) {field : Json} (hm : some field ∈ fields) :
    field.depth < json.depth := by
  obtain ⟨parts, hparts, listed⟩ := lawful.parts_of_fields? h
  exact depth_lt_of_parts? hparts (listed field hm)

theorem Lawful.depth_pos_of_fields? (lawful : codec.Lawful)
    (h : codec.fields? names json = some fields) : 0 < json.depth := by
  obtain ⟨parts, hparts, _⟩ := lawful.parts_of_fields? h
  exact depth_pos_of_parts? hparts

end JsonCodec

end FederatedCatalog
