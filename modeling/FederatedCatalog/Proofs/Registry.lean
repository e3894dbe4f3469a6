import FederatedCatalog.Connector.Registry
import FederatedCatalog.Proofs.LowerCase
import FederatedCatalog.Proofs.NameMap

namespace FederatedCatalog.Registry

section Changed

variable {registry after : Registry} {connector : Connector} {name : String} {enabled : Bool}

theorem register_eq_ok : registry.register connector enabled = .ok after ↔
    registry.find? connector.name = none ∧
      after = ⟨registry.entries.put (Text.lower connector.name) ⟨connector, enabled⟩⟩ := by
  unfold register find? NameMap.contains
  simp only
  split
  next there => simp [Option.isSome_iff_ne_none.mp there]
  next free => simp [Option.not_isSome_iff_eq_none.mp free, eq_comm]

theorem register_eq_error {error : RegistryError} :
    registry.register connector enabled = .error error ↔
      registry.find? connector.name ≠ none ∧ error = .duplicated (Text.lower connector.name) := by
  unfold register find? NameMap.contains
  simp only
  split
  next there => simp [Option.isSome_iff_ne_none.mp there, eq_comm]
  next free => simp [Option.not_isSome_iff_eq_none.mp free]

theorem setEnabled_eq_ok : registry.setEnabled name enabled = .ok after ↔
    ∃ found, registry.find? name = some found ∧
      after = ⟨registry.entries.put (Text.lower name) { found with enabled }⟩ := by
  simp only [setEnabled]
  cases registry.find? name with
  | none => simp
  | some found => simp [eq_comm]

theorem remove_eq_ok : registry.remove name = .ok (connector, after) ↔
    ∃ found, registry.find? name = some found ∧ connector = found.connector ∧
      after = ⟨registry.entries.erase (Text.lower name)⟩ := by
  simp only [remove]
  cases registry.find? name with
  | none => simp
  | some found => simp [eq_comm]

theorem setEnabled_of_setEnabledUnder {lock? : Option String}
    (h : registry.setEnabledUnder lock? name enabled = .ok after) :
    registry.setEnabled name enabled = .ok after := by
  unfold setEnabledUnder at h
  split at h
  next => cases h
  next => exact h

end Changed

def All (Q : String → Registered → Prop) (registry : Registry) : Prop :=
  ∀ ⦃key : String⦄ ⦃found : Registered⦄, registry.entries.get? key = some found → Q key found

section All

variable {Q : String → Registered → Prop} {registry after : Registry}

theorem all_empty : Registry.empty.All Q := by
  intro key found h
  cases h

theorem All.put (all : registry.All Q) {key : String} {found : Registered} (h : Q key found) :
    Registry.All Q ⟨registry.entries.put key found⟩ := by
  intro other entry hget
  rw [NameMap.get?_put] at hget
  split at hget
  next eq =>
    cases Option.some.inj hget
    exact eq ▸ h
  next => exact all hget

theorem All.register (all : registry.All Q) {connector : Connector} {enabled : Bool}
    (new : Q (Text.lower connector.name) ⟨connector, enabled⟩)
    (h : registry.register connector enabled = .ok after) : after.All Q := by
  obtain ⟨_, rfl⟩ := register_eq_ok.mp h
  exact all.put new

theorem All.setEnabled (all : registry.All Q) {name : String} {enabled : Bool}
    (changed : ∀ found, Q (Text.lower name) found → Q (Text.lower name) { found with enabled })
    (h : registry.setEnabled name enabled = .ok after) : after.All Q := by
  obtain ⟨found, hfound, rfl⟩ := setEnabled_eq_ok.mp h
  exact all.put (changed found (all hfound))

theorem All.setEnabledUnder (all : registry.All Q) {lock? : Option String} {name : String}
    {enabled : Bool}
    (changed : ∀ found, Q (Text.lower name) found → Q (Text.lower name) { found with enabled })
    (h : registry.setEnabledUnder lock? name enabled = .ok after) : after.All Q :=
  all.setEnabled changed (setEnabled_of_setEnabledUnder h)

theorem All.remove (all : registry.All Q) {name : String} {removed : Connector}
    (h : registry.remove name = .ok (removed, after)) : after.All Q := by
  obtain ⟨_, _, _, rfl⟩ := remove_eq_ok.mp h
  intro key found hkey
  by_cases eq : Text.lower name = key
  · subst eq
    rw [NameMap.get?_erase_self] at hkey
    cases hkey
  · rw [NameMap.get?_erase_of_ne _ eq] at hkey
    exact all hkey

end All

/-- Every connector is in its place and has a property. -/
def Holds (P : Connector → Prop) (registry : Registry) : Prop :=
  ∀ ⦃key : String⦄ ⦃found : Registered⦄, registry.entries.get? key = some found →
    key = Text.lower found.connector.name ∧ P found.connector

variable {P : Connector → Prop} {registry after : Registry}

theorem Holds.all (holds : registry.Holds P) :
    registry.All fun key found => key = Text.lower found.connector.name ∧ P found.connector :=
  holds

theorem holds_empty : Registry.empty.Holds P :=
  all_empty

theorem Holds.mono {Q : Connector → Prop} (holds : registry.Holds P)
    (h : ∀ connector, P connector → Q connector) : registry.Holds Q := by
  intro key found hget
  obtain ⟨hkey, hfound⟩ := holds hget
  exact ⟨hkey, h _ hfound⟩

theorem Holds.register (holds : registry.Holds P) {connector : Connector} {enabled : Bool}
    (hconnector : P connector) (h : registry.register connector enabled = .ok after) :
    after.Holds P :=
  holds.all.register ⟨rfl, hconnector⟩ h

theorem Holds.setEnabled (holds : registry.Holds P) {name : String} {enabled : Bool}
    (h : registry.setEnabled name enabled = .ok after) : after.Holds P :=
  holds.all.setEnabled (fun _ found => found) h

theorem Holds.setEnabledUnder (holds : registry.Holds P) {lock? : Option String} {name : String}
    {enabled : Bool} (h : registry.setEnabledUnder lock? name enabled = .ok after) :
    after.Holds P :=
  holds.all.setEnabledUnder (fun _ found => found) h

theorem Holds.remove (holds : registry.Holds P) {name : String} {removed : Connector}
    (h : registry.remove name = .ok (removed, after)) : after.Holds P :=
  holds.all.remove h

/-- What no operation on a registry takes away, if it brings in connectors with a property only. -/
structure Lasting (P : Connector → Prop) (R : Registry → Prop) : Prop where
  register : ∀ {registry after : Registry} {connector : Connector} {enabled : Bool},
    R registry → P connector → registry.register connector enabled = .ok after → R after
  setEnabled : ∀ {registry after : Registry} {name : String} {enabled : Bool},
    R registry → registry.setEnabled name enabled = .ok after → R after
  remove : ∀ {registry after : Registry} {name : String} {removed : Connector},
    R registry → registry.remove name = .ok (removed, after) → R after

theorem Lasting.setEnabledUnder {R : Registry → Prop} (lasting : Lasting P R) (holds : R registry)
    {lock? : Option String} {name : String} {enabled : Bool}
    (h : registry.setEnabledUnder lock? name enabled = .ok after) : R after :=
  lasting.setEnabled holds (setEnabled_of_setEnabledUnder h)

theorem lasting_holds : Lasting P (Holds P) where
  register := fun holds hconnector h => holds.register hconnector h
  setEnabled := fun holds h => holds.setEnabled h
  remove := fun holds h => holds.remove h

theorem lasting_sorted : Lasting P fun registry => registry.entries.Sorted where
  register := by
    intro registry after connector enabled sorted _ h
    obtain ⟨_, rfl⟩ := register_eq_ok.mp h
    exact NameMap.sorted_put _ _ sorted
  setEnabled := by
    intro registry after name enabled sorted h
    obtain ⟨_, _, rfl⟩ := setEnabled_eq_ok.mp h
    exact NameMap.sorted_put _ _ sorted
  remove := by
    intro registry after name removed sorted h
    obtain ⟨_, _, _, rfl⟩ := remove_eq_ok.mp h
    exact NameMap.sorted_erase _ sorted

theorem enabled?_eq_some {name : String} {connector : Connector} :
    registry.enabled? name = some connector ↔
      registry.entries.get? (Text.lower name) = some ⟨connector, true⟩ := by
  unfold enabled? find?
  constructor
  · intro h
    split at h
    next other hfound =>
      cases Option.some.inj h
      exact hfound
    next => cases h
  · intro h
    rw [h]

theorem enabled?_lower (registry : Registry) (name : String) :
    registry.enabled? (Text.lower name) = registry.enabled? name := by
  simp only [enabled?, find?, Text.lower_lower]

/-- The registry with a connector disabled, or as it was if a lock forbids it. -/
def disabledUnder (registry : Registry) (lock? : Option String) (name : String) : Registry :=
  match registry.setEnabledUnder lock? name false with
  | .ok after => after
  | .error _ => registry

theorem disabledUnder_cases (registry : Registry) (lock? : Option String) (name : String) :
    registry.disabledUnder lock? name = registry ∨
      registry.setEnabledUnder lock? name false = .ok (registry.disabledUnder lock? name) := by
  unfold disabledUnder
  split
  next after h => exact Or.inr h
  next => exact Or.inl rfl

theorem Holds.disabledUnder (holds : registry.Holds P) (lock? : Option String) (name : String) :
    (registry.disabledUnder lock? name).Holds P := by
  rcases registry.disabledUnder_cases lock? name with same | changed
  · rw [same]
    exact holds
  · exact holds.setEnabledUnder changed

theorem disabledUnder_none_enabled? (registry : Registry) (name : String) :
    (registry.disabledUnder none name).enabled? name = none := by
  cases hfound : registry.find? name with
  | none =>
    have kept : registry.disabledUnder none name = registry := by
      simp only [disabledUnder, setEnabledUnder, setEnabled, hfound]
    rw [kept, enabled?, hfound]
  | some found =>
    have changed : registry.disabledUnder none name =
        ⟨registry.entries.put (Text.lower name) { found with enabled := false }⟩ := by
      simp only [disabledUnder, setEnabledUnder, setEnabled, hfound]
    rw [changed, enabled?, find?, NameMap.get?_put_self]

theorem Holds.enabled? (holds : registry.Holds P) {name : String} {connector : Connector}
    (h : registry.enabled? name = some connector) :
    Text.lower name = Text.lower connector.name ∧ P connector := by
  have held := holds (enabled?_eq_some.mp h)
  exact held

theorem Holds.enabled?_of_listed (holds : registry.Holds P) (sorted : registry.entries.Sorted)
    {name : String} (listed : name ∈ registry.enabledNames) : Text.lower name = name ∧
      ∃ connector, registry.enabled? name = some connector := by
  obtain ⟨⟨key, connector, enabled⟩, hm, rfl⟩ := List.mem_map.mp listed
  obtain ⟨hentry, rfl⟩ := List.mem_filter.mp hm
  have found := NameMap.get?_of_mem sorted hentry
  have lowered : Text.lower key = key := by
    rw [(holds found).1, Text.lower_lower]
  refine ⟨lowered, connector, enabled?_eq_some.mpr ?_⟩
  rw [lowered]
  exact found

end FederatedCatalog.Registry
