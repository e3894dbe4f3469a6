import FederatedCatalog.Connector.Script
import FederatedCatalog.Proofs.Run

namespace FederatedCatalog

namespace NameMap

variable {α : Type}

/-- The map with one value changed, if the name is bound. -/
def adjust (name : String) (change : α → α) (map : NameMap α) : NameMap α :=
  map.map fun entry => if entry.1 = name then (entry.1, change entry.2) else entry

theorem adjust_cons (name key : String) (change : α → α) (value : α) (rest : NameMap α) :
    adjust name change ((key, value) :: rest) =
      (if key = name then (key, change value) else (key, value)) :: adjust name change rest :=
  rfl

theorem adjust_of_unbound {map : NameMap α} (sorted : Sorted map) {name : String}
    (h : get? name map = none) (change : α → α) : adjust name change map = map := by
  have others : ∀ entry ∈ map,
      (if entry.1 = name then (entry.1, change entry.2) else entry) = entry := by
    intro entry hm
    refine if_neg fun same : entry.1 = name => ?_
    rw [← same, get?_of_mem sorted hm] at h
    cases h
  exact (List.map_congr_left others).trans (List.map_id' map)

theorem adjust_of_get? {map : NameMap α} (sorted : Sorted map) {name : String} {old : α}
    (h : get? name map = some old) (change : α → α) :
    adjust name change map = put name (change old) map := by
  induction map with
  | nil => cases h
  | cons first rest ih =>
    obtain ⟨key, value⟩ := first
    have hrest := List.pairwise_cons.mp sorted
    by_cases eq : key = name
    · subst eq
      -- the keys behind it come later, so the name is not bound again
      have others := adjust_of_unbound hrest.2 (get?_eq_none_of_lt hrest.1) change
      simp only [get?, ↓reduceIte, Option.some.injEq] at h
      simp only [adjust_cons, others, h, put, String.lt_irrefl, ↓reduceIte]
    · simp only [get?, eq, ↓reduceIte] at h
      have later : ¬name < key := String.lt_asymm (hrest.1 (name, old) (mem_of_get? h))
      simp only [adjust_cons, ih hrest.2 h, put, later, eq, ↓reduceIte]

end NameMap

namespace Registry

variable {registry after : Registry}

def flagged (registry : Registry) (name : String) (enabled : Bool) : Registry :=
  ⟨registry.entries.adjust (Text.lower name) fun found => { found with enabled }⟩

theorem flagged_of_find? (sorted : registry.entries.Sorted) {name : String} {found : Registered}
    (h : registry.find? name = some found) (enabled : Bool) :
    registry.flagged name enabled =
      ⟨registry.entries.put (Text.lower name) { found with enabled }⟩ :=
  congrArg Registry.mk (NameMap.adjust_of_get? sorted h fun found => { found with enabled })

theorem flagged_of_find?_none (sorted : registry.entries.Sorted) {name : String}
    (h : registry.find? name = none) (enabled : Bool) :
    registry.flagged name enabled = registry :=
  congrArg Registry.mk (NameMap.adjust_of_unbound sorted h fun found => { found with enabled })

theorem find?_eq_none_iff (sorted : registry.entries.Sorted)
    (holds : registry.Holds fun _ => True) {name : String} : registry.find? name = none ↔
      ∀ entry ∈ registry.entries, Text.lower entry.2.connector.name ≠ Text.lower name := by
  constructor
  · intro h entry hm same
    have bound := NameMap.get?_of_mem sorted hm
    rw [(holds bound).1, same] at bound
    rw [find?, bound] at h
    cases h
  · intro h
    apply Option.eq_none_iff_forall_ne_some.mpr
    intro found bound
    exact h _ (NameMap.mem_of_get? bound) (holds bound).1.symm

theorem isSome_enabled?_iff (registry : Registry) (name : String) :
    (registry.enabled? name).isSome ↔ registry.isEnabled? name = some true := by
  unfold enabled? isEnabled?
  rcases registry.find? name with _ | ⟨connector, _ | _⟩ <;> simp

theorem mem_enabledNames (sorted : registry.entries.Sorted) {name : String} :
    name ∈ registry.enabledNames ↔
      ∃ found, registry.entries.get? name = some found ∧ found.enabled = true := by
  constructor
  · intro listed
    obtain ⟨⟨key, found⟩, hm, rfl⟩ := List.mem_map.mp listed
    obtain ⟨entry, enabled⟩ := List.mem_filter.mp hm
    exact ⟨found, NameMap.get?_of_mem sorted entry, enabled⟩
  · rintro ⟨found, bound, enabled⟩
    have kept : (name, found) ∈ registry.entries.filter fun entry => entry.2.enabled :=
      List.mem_filter.mpr ⟨NameMap.mem_of_get? bound, enabled⟩
    exact List.mem_map.mpr ⟨_, kept, rfl⟩

theorem isEnabled?_iff_mem (sorted : registry.entries.Sorted) (name : String) :
    registry.isEnabled? name = some true ↔ Text.lower name ∈ registry.enabledNames := by
  rw [isEnabled?, Option.map_eq_some_iff, mem_enabledNames sorted]
  rfl

theorem enabledNames_subset (registry : Registry) : registry.enabledNames ⊆ registry.allNames :=
  List.map_subset _ List.filter_sublist.subset

theorem lasting_from (registry : Registry) :
    Lasting (fun _ => False) fun after => after.All fun key found =>
      ∃ old, registry.entries.get? key = some old ∧ old.connector = found.connector where
  register := fun _ none _ => none.elim
  setEnabled := fun all h => all.setEnabled (fun _ same => same) h
  remove := fun all h => all.remove h

theorem all_from (registry : Registry) : registry.All fun key found =>
    ∃ old, registry.entries.get? key = some old ∧ old.connector = found.connector :=
  fun _ found h => ⟨found, h, rfl⟩

/-- The connectors of a name among those registered so far, the last of them last. -/
def ofName (registered : List Connector) (name : String) : List Connector :=
  registered.filter fun connector => Text.lower connector.name = Text.lower name

/-- Every connector in the registry is the last one that was registered under its key. -/
def LastOf (registered : List Connector) (registry : Registry) : Prop :=
  registry.All fun key found => ∀ name, Text.lower name = key →
    (ofName registered name).getLast? = some found.connector

theorem LastOf.register {registered : List Connector} (last : registry.LastOf registered)
    {connector : Connector} {enabled : Bool}
    (h : registry.register connector enabled = .ok after) :
    after.LastOf (registered ++ [connector]) := by
  obtain ⟨_, rfl⟩ := register_eq_ok.mp h
  intro key found bound name named
  rw [NameMap.get?_put] at bound
  subst named
  rw [ofName, List.filter_append]
  split at bound
  next same =>
    cases Option.some.inj bound
    simp [same]
  next other => simpa [other, ofName] using last bound name rfl

/-- A registry is a map from names in any case to connectors with a flag each, where `registered`
are the connectors that have been registered, in that order. -/
structure IsMap (registry : Registry) (registered : List Connector) : Prop where
  sorted : registry.entries.Sorted
  keyed : ∀ entry ∈ registry.entries, entry.1 = Text.lower entry.2.connector.name
  found_iff : ∀ name, (registry.enabled? name).isSome ↔ registry.isEnabled? name = some true
  listed_iff : ∀ name,
    registry.isEnabled? name = some true ↔ Text.lower name ∈ registry.enabledNames
  listed : registry.enabledNames ⊆ registry.allNames
  last : ∀ name connector, registry.enabled? name = some connector →
    (ofName registered name).getLast? = some connector

theorem LastOf.isMap {registered : List Connector} (last : registry.LastOf registered)
    (sorted : registry.entries.Sorted) (holds : registry.Holds fun _ => True) :
    registry.IsMap registered where
  sorted := sorted
  keyed := fun _ hm => (holds (NameMap.get?_of_mem sorted hm)).1
  found_iff := registry.isSome_enabled?_iff
  listed_iff := isEnabled?_iff_mem sorted
  listed := registry.enabledNames_subset
  last := fun name _ found => last (enabled?_eq_some.mp found) name rfl

end Registry

/-- Whether an operation on connectors or aliases is refused. -/
def Answer.IsRefusal : Answer → Prop
  | .registryChanged (.error _) => True
  | .removed (.error _) => True
  | .aliasAdded (.error _) => True
  | _ => False

namespace Catalog

open Registry

variable {catalog : Catalog}

def accepted? (catalog : Catalog) : Operation → Option Connector
  | .register connector enabled =>
    match (catalog.perform (.register connector enabled)).1 with
    | .registryChanged (.ok _) => some connector
    | _ => none
  | _ => none

/-- The connectors that operations register, in that order, without those that are refused. -/
def registered (catalog : Catalog) : List Operation → List Connector
  | [] => []
  | operation :: rest =>
    (catalog.accepted? operation).toList ++ (catalog.perform operation).2.2.registered rest

theorem perform_lastOf_of_unregistered {earlier : List Connector}
    (last : catalog.registry.LastOf earlier) (sessions : catalog.Sessions fun _ => True)
    {operation : Operation} (none : operation.Brings fun _ => False) :
    (catalog.perform operation).2.2.registry.LastOf earlier := by
  intro key found bound
  have kept := perform_registry (lasting_from catalog.registry) (all_from _) sessions none
  obtain ⟨old, hold, same⟩ := kept bound
  rw [← same]
  exact last hold

theorem perform_lastOf {earlier : List Connector} (last : catalog.registry.LastOf earlier)
    (sessions : catalog.Sessions fun _ => True) (operation : Operation) :
    (catalog.perform operation).2.2.registry.LastOf
      (earlier ++ (catalog.accepted? operation).toList) := by
  cases operation with
  | register connector enabled =>
    simp only [accepted?, perform]
    cases h : catalog.registry.register connector enabled with
    | error error => simpa [withRegistry] using last
    | ok after => exact last.register h
  | _ =>
    -- no other operation brings in a connector
    simp only [accepted?, Option.toList_none, List.append_nil]
    exact perform_lastOf_of_unregistered last sessions trivial

theorem run_lastOf {earlier : List Connector} (last : catalog.registry.LastOf earlier)
    (sessions : catalog.Sessions fun _ => True) (operations : List Operation) :
    (catalog.run operations).registry.LastOf (earlier ++ catalog.registered operations) := by
  induction operations generalizing catalog earlier with
  | nil => simpa [registered] using last
  | cons operation rest ih =>
    rw [run_cons, registered, ← List.append_assoc]
    exact ih (perform_lastOf last sessions operation) (sessions.perform_sound operation)

theorem withRegistry_refused {result : Except RegistryError Registry}
    (refused : (Answer.registryChanged (catalog.withRegistry result).1).IsRefusal) :
    (catalog.withRegistry result).2 = catalog := by
  cases result with
  | error error => rfl
  | ok after => exact refused.elim

theorem perform_refused {operation : Operation}
    (refused : (catalog.perform operation).1.IsRefusal) :
    (catalog.perform operation).2.2 = catalog := by
  cases operation with
  | ask number question =>
    simp only [perform, ask] at refused
    cases h : catalog.sessions[number]? <;> simp [h, Answer.IsRefusal] at refused
  | openSession settings? => exact refused.elim
  | register connector enabled => exact withRegistry_refused refused
  | setEnabled name enabled => exact withRegistry_refused refused
  | sessionSetEnabled name enabled => exact withRegistry_refused refused
  | remove name =>
    simp only [perform] at refused ⊢
    cases h : catalog.registry.remove name with
    | error error => rfl
    | ok removed => simp [h, Answer.IsRefusal] at refused
  | addAlias kind owner? name target =>
    simp only [perform] at refused ⊢
    cases h : catalog.aliases.add kind owner? name target with
    | error error => rfl
    | ok aliases => simp [h, Answer.IsRefusal] at refused
  | removeAlias kind owner? name => exact refused.elim

theorem registers_iff {connector : Connector} {enabled : Bool} :
    (catalog.perform (.register connector enabled)).1 = .registryChanged (.ok ()) ↔
      ∃ after, catalog.registry.register connector enabled = .ok after := by
  simp only [perform]
  cases h : catalog.registry.register connector enabled <;> simp [withRegistry]

theorem removes_iff {name : String} {connector : Connector} :
    (catalog.perform (.remove name)).1 = .removed (.ok connector) ↔
      ∃ after, catalog.registry.remove name = .ok (connector, after) := by
  simp only [perform]
  cases h : catalog.registry.remove name <;> simp [Prod.ext_iff]

/-- What the operations on connectors make of the registry as a map. -/
structure ChangesMap (catalog : Catalog) : Prop where
  register_iff : ∀ connector enabled,
    (catalog.perform (.register connector enabled)).1 = .registryChanged (.ok ()) ↔
      ∀ entry ∈ catalog.registry.entries,
        Text.lower entry.2.connector.name ≠ Text.lower connector.name
  registered : ∀ connector enabled,
    (catalog.perform (.register connector enabled)).1 = .registryChanged (.ok ()) → ∀ other,
      (catalog.perform (.register connector enabled)).2.2.registry.find? other =
        if Text.lower connector.name = Text.lower other then some ⟨connector, enabled⟩
        else catalog.registry.find? other
  removed : ∀ name connector, (catalog.perform (.remove name)).1 = .removed (.ok connector) →
    (∃ enabled, catalog.registry.find? name = some ⟨connector, enabled⟩) ∧ ∀ other,
      (catalog.perform (.remove name)).2.2.registry.find? other =
        if Text.lower name = Text.lower other then none else catalog.registry.find? other
  /-- Setting a flag changes that flag only, and nothing if there is no connector of that name. -/
  flagged : ∀ name enabled, (catalog.perform (.setEnabled name enabled)).2.2 =
    { catalog with registry := catalog.registry.flagged name enabled }
  refused : ∀ operation, (catalog.perform operation).1.IsRefusal →
    (catalog.perform operation).2.2 = catalog

theorem changesMap (sorted : catalog.registry.entries.Sorted)
    (holds : catalog.registry.Holds fun _ => True) : catalog.ChangesMap where
  register_iff := by
    intro connector enabled
    rw [registers_iff, ← find?_eq_none_iff sorted holds]
    simp only [register_eq_ok, exists_and_left, exists_eq, and_true]
  registered := by
    intro connector enabled accepted other
    obtain ⟨after, h⟩ := registers_iff.mp accepted
    have hafter : (catalog.perform (.register connector enabled)).2.2.registry = after := by
      simp only [perform, h, withRegistry]
    obtain ⟨_, rfl⟩ := register_eq_ok.mp h
    rw [hafter, find?, NameMap.get?_put]
    rfl
  removed := by
    intro name connector accepted
    obtain ⟨after, h⟩ := removes_iff.mp accepted
    have hafter : (catalog.perform (.remove name)).2.2.registry = after := by
      simp only [perform, h]
    obtain ⟨found, hfound, rfl, rfl⟩ := remove_eq_ok.mp h
    refine ⟨⟨found.enabled, hfound⟩, fun other => ?_⟩
    rw [hafter, find?]
    split
    next same => rw [← same, NameMap.get?_erase_self]
    next differs => exact NameMap.get?_erase_of_ne _ differs
  flagged := by
    intro name enabled
    cases h : catalog.registry.find? name with
    | none =>
      rw [flagged_of_find?_none sorted h]
      simp only [perform, Registry.setEnabled, h, withRegistry]
    | some found =>
      rw [flagged_of_find? sorted h]
      simp only [perform, Registry.setEnabled, h, withRegistry]
  refused := fun _ refused => perform_refused refused

/-- After any operations, lookups among them, the registry is a map from names in any case to
connectors with a flag each, and further operations on connectors change it as such. -/
theorem registry_is_map {start : Catalog} (empty : start.registry = .empty)
    (fresh : start.sessions = #[]) (operations : List Operation) :
    (start.run operations).registry.IsMap (start.registered operations) ∧
      (start.run operations).ChangesMap := by
  have sessions : start.Sessions fun _ => True := sessions_of_fresh fresh _
  have brings : ∀ operation ∈ operations, operation.Brings fun _ => True := by
    intro operation _
    cases operation <;> trivial
  have sorted : (start.run operations).registry.entries.Sorted :=
    run_registry lasting_sorted (empty ▸ List.Pairwise.nil) sessions brings
  have holds := (run_brings empty fresh brings).1
  have none : start.registry.LastOf [] := empty ▸ all_empty
  have last := run_lastOf none sessions operations
  exact ⟨last.isMap sorted holds, changesMap sorted holds⟩

/-- Connectors of one name in different spellings. The second is refused, the third takes the place
of the first. -/
def respelled : List Operation :=
  [.register (.scripted 0 "DFS" []) true, .register (.scripted 1 "dfs" []) true,
    .setEnabled "dFs" false, .remove "Dfs", .register (.scripted 2 "dFS" []) false,
    .setEnabled "DFS" true]

theorem respelled_found : ∃ connector,
    ((empty .immediate).run respelled).registry.enabled? "dfs" = some connector ∧
      connector.serial = 2 ∧
      (ofName ((empty .immediate).registered respelled) "dfs").getLast? = some connector := by
  have found : (((empty .immediate).run respelled).registry.enabled? "dfs").map Connector.serial =
      some 2 := by
    decide +kernel
  obtain ⟨connector, enabled, serial⟩ := Option.map_eq_some_iff.mp found
  have map := (@registry_is_map (empty .immediate) rfl rfl respelled).1
  exact ⟨connector, enabled, serial, map.last "dfs" connector enabled⟩

end Catalog

end FederatedCatalog
