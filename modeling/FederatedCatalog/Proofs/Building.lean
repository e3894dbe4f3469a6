import FederatedCatalog.Proofs.AliasTargets
import FederatedCatalog.Proofs.DescriptionOrder
import FederatedCatalog.Proofs.FailingConnector
import FederatedCatalog.Proofs.RegistryMap
import Mathlib.Data.List.Nodup

namespace FederatedCatalog

namespace CatalogDescription

/-- What is kept for a described connector of some number. -/
def registered (entry : (String × ConnectorDescription) × Nat) : Registered :=
  ⟨entry.1.2.connector entry.2 entry.1.1, entry.1.2.enabled⟩

/-- What it means that described connectors, numbered from `serial`, have been added to a
registry. -/
structure Fills (serial : Nat) (entries : NameMap ConnectorDescription)
    (registry after : Registry) : Prop where
  free : ∀ name ∈ entries.keys, registry.find? name = none
  apart : (entries.keys.map Text.lower).Nodup
  sorted : registry.entries.Sorted → after.entries.Sorted
  bound_iff : ∀ key found, after.entries.get? key = some found ↔
    registry.entries.get? key = some found ∨
      ∃ entry ∈ entries.zipIdx serial, Text.lower entry.1.1 = key ∧ registered entry = found

section Registering

variable {serial : Nat} {registry after : Registry} {entries : NameMap ConnectorDescription}

theorem Fills.cons {name : String} {description : ConnectorDescription}
    (free : registry.find? name = none)
    (fills : Fills (serial + 1) entries ⟨registry.entries.put (Text.lower name)
      (registered ((name, description), serial))⟩ after) :
    Fills serial ((name, description) :: entries) registry after := by
  have later : ∀ other ∈ entries.keys,
      Text.lower name ≠ Text.lower other ∧ registry.find? other = none := by
    intro other hm
    have unbound := fills.free other hm
    rw [Registry.find?, NameMap.get?_put] at unbound
    split at unbound
    next => cases unbound
    next differs => exact ⟨differs, unbound⟩
  refine ⟨List.forall_mem_cons.mpr ⟨free, fun other hm => (later other hm).2⟩,
    List.nodup_cons.mpr ⟨?_, fills.apart⟩,
    fun sorted => fills.sorted (NameMap.sorted_put _ _ sorted), fun key found => ?_⟩
  · intro hm
    obtain ⟨other, hother, same⟩ := List.mem_map.mp hm
    exact (later other hother).1 same.symm
  · rw [fills.bound_iff, NameMap.get?_put, List.zipIdx_cons, List.exists_mem_cons_iff]
    split
    next eq =>
      subst eq
      have unbound : registry.entries.get? (Text.lower name) = none := free
      simp [unbound]
    next differs => simp [differs]

theorem registerFrom_fills (h : registerFrom serial registry entries = .ok after) :
    Fills serial entries registry after := by
  induction entries generalizing serial registry with
  | nil =>
    cases h
    exact ⟨by simp [NameMap.keys], by simp [NameMap.keys], id, by simp⟩
  | cons first rest ih =>
    obtain ⟨name, description⟩ := first
    unfold registerFrom at h
    split at h
    next mid hmid =>
      have fills := ih h
      obtain ⟨free, rfl⟩ := Registry.register_eq_ok.mp hmid
      exact fills.cons free
    next => cases h

theorem registerFrom_error {error : RegistryError}
    (h : registerFrom serial registry entries = .error error) :
    ∃ before entry behind after, entries = before ++ entry :: behind ∧
      registerFrom serial registry before = .ok after ∧ after.find? entry.1 ≠ none ∧
      error = .duplicated (Text.lower entry.1) := by
  induction entries generalizing serial registry with
  | nil => cases h
  | cons first rest ih =>
    obtain ⟨name, description⟩ := first
    unfold registerFrom at h
    split at h
    next mid hmid =>
      obtain ⟨before, entry, behind, after, rfl, hbefore, there, herror⟩ := ih h
      refine ⟨(name, description) :: before, entry, behind, after, rfl, ?_, there, herror⟩
      simp only [registerFrom, hmid, hbefore]
    next cause hcause =>
      cases h
      obtain ⟨there, herror⟩ := Registry.register_eq_error.mp hcause
      exact ⟨[], (name, description), rest, registry, rfl, rfl, there, herror⟩

/-- What is in a registry that has been filled from the beginning. -/
theorem Fills.found_iff (fills : Fills 0 entries .empty registry) {key : String}
    {found : Registered} : registry.entries.get? key = some found ↔
      ∃ entry serial, entries[serial]? = some entry ∧ Text.lower entry.1 = key ∧
        registered (entry, serial) = found := by
  rw [fills.bound_iff]
  simp only [Prod.exists, List.mk_mem_zipIdx_iff_getElem?]
  exact or_iff_right nofun

theorem Fills.flag_iff (fills : Fills 0 entries .empty registry) (key : String) (flag : Bool) :
    (∃ found, registry.entries.get? key = some found ∧ found.enabled = flag) ↔
      ∃ entry ∈ entries, Text.lower entry.1 = key ∧ entry.2.enabled = flag := by
  constructor
  · rintro ⟨found, bound, rfl⟩
    obtain ⟨entry, serial, hentry, same, rfl⟩ := fills.found_iff.mp bound
    exact ⟨entry, List.mem_of_getElem? hentry, same, rfl⟩
  · rintro ⟨entry, hm, same, hflag⟩
    obtain ⟨serial, hentry⟩ := List.mem_iff_getElem?.mp hm
    exact ⟨_, fills.found_iff.mpr ⟨entry, serial, hentry, same, rfl⟩, hflag⟩

theorem Fills.mem_allNames (fills : Fills 0 entries .empty registry) {name : String} :
    name ∈ registry.allNames ↔ ∃ entry ∈ entries, Text.lower entry.1 = name := by
  have sorted := fills.sorted List.Pairwise.nil
  rw [Registry.allNames, NameMap.keys, List.mem_map]
  constructor
  · rintro ⟨⟨name, found⟩, hm, rfl⟩
    have bound := NameMap.get?_of_mem sorted hm
    obtain ⟨entry, hentry, same, _⟩ := (fills.flag_iff name found.enabled).mp ⟨found, bound, rfl⟩
    exact ⟨entry, hentry, same⟩
  · rintro ⟨entry, hentry, same⟩
    obtain ⟨found, bound, _⟩ := (fills.flag_iff name _).mpr ⟨entry, hentry, same, rfl⟩
    exact ⟨(name, found), NameMap.mem_of_get? bound, rfl⟩

end Registering

/-- A connector's name that in lower case is the name of an earlier connector. -/
def Repeats (description : CatalogDescription) (name : String) : Prop :=
  name ∈ description.connectors.keys ∧
    ∃ earlier ∈ description.connectors.keys, earlier < name ∧ Text.lower earlier = Text.lower name

instance (description : CatalogDescription) (name : String) :
    Decidable (description.Repeats name) :=
  inferInstanceAs (Decidable (_ ∧ _))

/-- The first of the names that repeat an earlier one. -/
def RepeatsFirst (description : CatalogDescription) (name : String) : Prop :=
  description.Repeats name ∧ ∀ other, description.Repeats other → name ≤ other

/-- A catalog with what a description tells of. The connectors have numbers of their own, and none
of them has been called. -/
structure Describes (description : CatalogDescription) (catalog : Catalog) : Prop where
  settings : catalog.settings = description.settings
  named_iff : ∀ name, name ∈ catalog.registry.allNames ↔
    ∃ entry ∈ description.connectors, Text.lower entry.1 = name
  flag_iff : ∀ name flag, catalog.registry.isEnabled? name = some flag ↔
    ∃ entry ∈ description.connectors,
      Text.lower entry.1 = Text.lower name ∧ entry.2.enabled = flag
  listed_iff : ∀ settings? name,
    name ∈ (catalog.perform (.openSession settings?)).2.2.registry.enabledNames ↔
      ∃ entry ∈ description.connectors, Text.lower entry.1 = name ∧ entry.2.enabled = true
  aliases : ∀ session kind user name, (catalog.context session).aliases.target? kind user name =
    description.aliases.toMap.seenBy kind user name
  connectors : ∀ entry ∈ description.connectors, ∃ serial,
    catalog.registry.find? entry.1 = some ⟨entry.2.connector serial entry.1, entry.2.enabled⟩ ∧
      (entry.2.connector serial entry.1).FailsFirst entry.2.failTimes.toNat
  apart : ∀ name other found found', catalog.registry.find? name = some found →
    catalog.registry.find? other = some found' →
    found.connector.serial = found'.connector.serial → Text.lower name = Text.lower other
  uncalled : catalog.calls = .zero

section Built

variable {description : CatalogDescription}

theorem Repeats.not_nodup {name : String} (repeats : description.Repeats name) :
    ¬(description.connectors.keys.map Text.lower).Nodup := by
  obtain ⟨hname, earlier, hearlier, hlt, same⟩ := repeats
  intro nodup
  rw [List.inj_on_of_nodup_map nodup hearlier hname same] at hlt
  exact String.lt_irrefl name hlt

theorem repeatsFirst_of_split (sorted : description.connectors.Sorted)
    {before behind : NameMap ConnectorDescription} {entry : String × ConnectorDescription}
    (split : description.connectors = before ++ entry :: behind)
    (apart : (before.keys.map Text.lower).Nodup)
    (there : Text.lower entry.1 ∈ before.keys.map Text.lower) :
    description.RepeatsFirst entry.1 := by
  rw [split] at sorted
  obtain ⟨_, hbehind, hbefore⟩ := List.pairwise_append.mp sorted
  -- the connectors are in order, so smaller names stand before the entry
  have early {name : String} (hm : name ∈ description.connectors.keys) (hlt : name < entry.1) :
      name ∈ before.keys := by
    rw [split] at hm
    obtain ⟨other, hother, rfl⟩ := List.mem_map.mp hm
    rcases List.mem_append.mp hother with hother | hother
    · exact List.mem_map_of_mem hother
    · rcases List.mem_cons.mp hother with rfl | hother
      · exact absurd hlt (String.lt_irrefl _)
      · exact absurd hlt (String.lt_asymm ((List.pairwise_cons.mp hbehind).1 other hother))
  constructor
  · obtain ⟨name, hname, same⟩ := List.mem_map.mp there
    obtain ⟨earlier, hearlier, rfl⟩ := List.mem_map.mp hname
    refine ⟨?_, earlier.1, ?_, hbefore earlier hearlier entry List.mem_cons_self, same⟩
    · rw [split]
      simp [NameMap.keys]
    · rw [split]
      exact List.mem_map_of_mem (List.mem_append_left _ hearlier)
  · rintro other ⟨hother, earlier, hearlier, hlt, same⟩
    by_contra later
    have hother' := String.not_le.mp later
    rw [List.inj_on_of_nodup_map apart (early hearlier (String.lt_trans hlt hother'))
      (early hother hother') same] at hlt
    exact String.lt_irrefl other hlt

theorem registerFrom_repeats (sorted : description.connectors.Sorted) {error : RegistryError}
    (h : registerFrom 0 .empty description.connectors = .error error) :
    ∃ name, description.RepeatsFirst name ∧ error = .duplicated (Text.lower name) := by
  obtain ⟨before, entry, behind, after, split, hbefore, there, rfl⟩ := registerFrom_error h
  have fills := registerFrom_fills hbefore
  obtain ⟨found, bound⟩ := Option.ne_none_iff_exists'.mp there
  obtain ⟨earlier, hearlier, same, _⟩ := (fills.flag_iff _ found.enabled).mp ⟨found, bound, rfl⟩
  refine ⟨entry.1, repeatsFirst_of_split sorted split fills.apart ?_, rfl⟩
  rw [← same]
  exact List.mem_map_of_mem (List.mem_map_of_mem hearlier)

theorem Fills.describes {registry : Registry}
    (fills : Fills 0 description.connectors .empty registry) : description.Describes
      { Catalog.empty description.settings with registry, aliases := description.aliases } where
  settings := rfl
  named_iff := fun _ => fills.mem_allNames
  flag_iff := by
    intro name flag
    rw [Registry.isEnabled?, Option.map_eq_some_iff]
    exact fills.flag_iff (Text.lower name) flag
  listed_iff := by
    intro settings? name
    have sorted := fills.sorted List.Pairwise.nil
    exact (Registry.mem_enabledNames sorted).trans (fills.flag_iff name true)
  aliases := fun _ => description.aliases.source_target?
  connectors := by
    intro entry hm
    obtain ⟨serial, hentry⟩ := List.mem_iff_getElem?.mp hm
    exact ⟨serial, fills.found_iff.mpr ⟨entry, serial, hentry, rfl, rfl⟩,
      Connector.failsFirst_described serial entry.1 entry.2.schema entry.2.failTimes _⟩
  apart := by
    intro name other found found' bound bound' hserial
    obtain ⟨entry, serial, hentry, same, rfl⟩ := fills.found_iff.mp bound
    obtain ⟨entry', serial', hentry', same', rfl⟩ := fills.found_iff.mp bound'
    -- one number is that of one entry
    obtain rfl : serial = serial' := hserial
    rw [hentry] at hentry'
    cases hentry'
    exact same.symm.trans same'
  uncalled := rfl

theorem build_eq_ok {catalog : Catalog} : description.build = .ok catalog ↔
    ∃ registry, registerFrom 0 .empty description.connectors = .ok registry ∧
      description.aliases.check = .ok () ∧ catalog =
        { Catalog.empty description.settings with registry, aliases := description.aliases } := by
  unfold build
  cases h : registerFrom 0 .empty description.connectors with
  | error error => simp
  | ok registry =>
    cases checked : description.aliases.check with
    | error error => simp
    | ok _ => simp [eq_comm]

/-- A catalog can be built exactly if the names of the connectors differ in lower case and every
alias leads to a path. If a name repeats an earlier one, the first that does is to blame, whatever
the aliases are. What is built has what the description tells of. -/
theorem build_describes (ordered : description.Ordered) :
    ((∃ catalog, description.build = .ok catalog) ↔
      (description.connectors.keys.map Text.lower).Nodup ∧ description.aliases.toMap.Leads) ∧
    (¬(description.connectors.keys.map Text.lower).Nodup → ∃ name,
      description.RepeatsFirst name ∧
        description.build = .error (.connector (.duplicated (Text.lower name)))) ∧
    ∀ catalog, description.build = .ok catalog → description.Describes catalog := by
  refine ⟨⟨?_, ?_⟩, ?_, ?_⟩
  · rintro ⟨catalog, built⟩
    obtain ⟨registry, h, checked, _⟩ := build_eq_ok.mp built
    exact ⟨(registerFrom_fills h).apart, fun _ _ => Aliases.parse_of_check checked⟩
  · rintro ⟨apart, leads⟩
    cases h : registerFrom 0 .empty description.connectors with
    | error error =>
      obtain ⟨name, repeats, _⟩ := registerFrom_repeats ordered.connectors h
      exact absurd apart repeats.1.not_nodup
    | ok registry =>
      have checked := ordered.aliases.check_ok.mpr fun _ _ bound => leads bound
      exact ⟨_, build_eq_ok.mpr ⟨registry, h, checked, rfl⟩⟩
  · intro clash
    cases h : registerFrom 0 .empty description.connectors with
    | error error =>
      obtain ⟨name, repeats, rfl⟩ := registerFrom_repeats ordered.connectors h
      refine ⟨name, repeats, ?_⟩
      rw [build, h]
    | ok registry => exact absurd (registerFrom_fills h).apart clash
  · intro catalog built
    obtain ⟨registry, h, _, rfl⟩ := build_eq_ok.mp built
    exact (registerFrom_fills h).describes

end Built

/-- Connectors that fail twice, with a short name for files. -/
def stores (connectors : List (String × Bool)) : CatalogDescription where
  settings := .immediate
  connectors := connectors.map fun (name, enabled) => (name, ⟨enabled, 2, some "no route", .empty⟩)
  aliases := ⟨⟨[("fast", "dfs.tmp")], [("alice", [("fast", "s3")])]⟩, .empty⟩

theorem ordered_stores {connectors : List (String × Bool)}
    (sorted : connectors.Pairwise fun a b => a.1 < b.1) : (stores connectors).Ordered where
  connectors := List.Pairwise.map _ (fun _ _ hlt => hlt) sorted
  schemas := by
    intro entry hm
    obtain ⟨_, _, rfl⟩ := List.mem_map.mp hm
    exact .mk none .nil .nil (by simp)
  aliases := by
    intro kind
    cases kind with
    | namespaces =>
      refine ⟨List.pairwise_singleton _ _, List.pairwise_singleton _ _, fun entry hm => ?_⟩
      obtain rfl := List.mem_singleton.mp hm
      exact List.pairwise_singleton _ _
    | tables => exact AliasSet.ordered_empty

/-- With a disabled connector a catalog is built. With two names in two spellings each it is not, and
the first spelling that comes second is to blame. -/
theorem stores_built :
    (stores [("DFS", true), ("old", false)]).Ordered ∧
    (∃ catalog, (stores [("DFS", true), ("old", false)]).build = .ok catalog ∧
      catalog.registry.isEnabled? "OLD" = some false ∧
      (∃ connector, catalog.registry.find? "DFS" = some ⟨connector, true⟩ ∧
        connector.FailsFirst 2) ∧
      ∀ session, (catalog.context session).aliases.target? .namespaces "alice" "fast" =
        some "s3") ∧
    (stores [("DFS", true), ("Old", true), ("dfs", true), ("old", false)]).Ordered ∧
    (stores [("DFS", true), ("Old", true), ("dfs", true), ("old", false)]).build =
      .error (.connector (.duplicated "dfs")) := by
  have ordered : (stores [("DFS", true), ("old", false)]).Ordered := ordered_stores (by decide)
  have spelled : (stores [("DFS", true), ("Old", true), ("dfs", true), ("old", false)]).Ordered :=
    ordered_stores (by decide)
  refine ⟨ordered, ?_, spelled, ?_⟩
  · have checked : (stores [("DFS", true), ("old", false)]).aliases.check = .ok () := by
      decide +kernel
    obtain ⟨catalog, built⟩ := (build_describes ordered).1.mpr
      ⟨by decide +kernel, fun _ _ => Aliases.parse_of_check checked⟩
    have describes := (build_describes ordered).2.2 catalog built
    refine ⟨catalog, built, ?_, ?_, fun session => ?_⟩
    · exact (describes.flag_iff "OLD" false).mpr
        ⟨_, List.mem_cons_of_mem _ List.mem_cons_self, by decide, rfl⟩
    · obtain ⟨serial, found, failing⟩ := describes.connectors _ List.mem_cons_self
      exact ⟨_, found, failing⟩
    · exact (describes.aliases session .namespaces "alice" "fast").trans (by decide)
  · obtain ⟨name, ⟨repeats, least⟩, built⟩ := (build_describes spelled).2.1 (by decide +kernel)
    have early : name ≤ "dfs" := least "dfs" (by decide +kernel)
    have only : ∀ name ∈ ["DFS", "Old", "dfs", "old"], name ≤ "dfs" →
        (stores [("DFS", true), ("Old", true), ("dfs", true), ("old", false)]).Repeats name →
        Text.lower name = "dfs" := by decide +kernel
    rw [built, only name repeats.1 early repeats]

end CatalogDescription

end FederatedCatalog
