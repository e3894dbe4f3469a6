import FederatedCatalog.Proofs.Run
import Mathlib.Logic.Function.Basic

namespace FederatedCatalog

/-- What tells one alias from every other: its kind, its owner unless it is public, and its name. -/
structure AliasKey where
  kind : AliasKind
  owner? : Option String
  name : String
  deriving DecidableEq

/-- The targets of aliases. -/
abbrev AliasMap := AliasKey → Option String

namespace AliasMap

/-- Whether an alias may be added. The target is looked at before the name. -/
def allows (map : AliasMap) (key : AliasKey) (target : String) : Except AliasError Unit :=
  match Path.parse target with
  | .error cause => .error (.invalidTarget target cause)
  | .ok _ => if map key = none then .ok () else .error (.duplicated key.kind key.name)

/-- The map after an operation of a catalog. -/
def perform (map : AliasMap) : Operation → AliasMap
  | .addAlias kind owner? name target =>
    match map.allows ⟨kind, owner?, name⟩ target with
    | .ok () => Function.update map ⟨kind, owner?, name⟩ (some target)
    | .error _ => map
  | .removeAlias kind owner? name => Function.update map ⟨kind, owner?, name⟩ none
  | _ => map

/-- The map after operations. -/
def run (map : AliasMap) (operations : List Operation) : AliasMap :=
  operations.foldl perform map

/-- What a user sees: an alias of the user's own, or else the public one of that name. -/
def seenBy (map : AliasMap) (kind : AliasKind) (user name : String) : Option String :=
  (map ⟨kind, some user, name⟩).or (map ⟨kind, none, name⟩)

end AliasMap

def AliasSource.target? (source : AliasSource) : AliasKind → String → String → Option String
  | .namespaces => source.namespaceAlias
  | .tables => source.tableAlias

namespace AliasSet

/-- Every map of the set has its names in order. -/
structure Ordered (set : AliasSet) : Prop where
  shared : set.shared.Sorted
  owned : set.owned.Sorted
  each : ∀ entry ∈ set.owned, NameMap.Sorted entry.2

theorem ordered_empty : empty.Ordered :=
  ⟨List.Pairwise.nil, List.Pairwise.nil, by simp [empty]⟩

variable {set : AliasSet}

theorem belonging_setBelonging (set : AliasSet) (owner? other? : Option String)
    (aliases : NameMap String) : (set.setBelonging owner? aliases).belonging other? =
      if other? = owner? then aliases else set.belonging other? := by
  cases owner? with
  | none => cases other? <;> rfl
  | some owner =>
    cases other? with
    | none => rfl
    | some other =>
      by_cases eq : other = owner
      · subst eq
        simp [setBelonging, belonging]
      · have apart : owner ≠ other := Ne.symm eq
        simp [setBelonging, belonging, NameMap.get?_put_of_ne, apart, eq]

theorem Ordered.belonging (ordered : set.Ordered) (owner? : Option String) :
    (set.belonging owner?).Sorted := by
  cases owner? with
  | none => exact ordered.shared
  | some owner =>
    cases h : set.owned.get? owner with
    | none =>
      have none : set.belonging (some owner) = [] := by simp [AliasSet.belonging, h]
      rw [none]
      exact List.Pairwise.nil
    | some aliases =>
      have own : set.belonging (some owner) = aliases := by simp [AliasSet.belonging, h]
      rw [own]
      exact ordered.each (owner, aliases) (NameMap.mem_of_get? h)

theorem Ordered.setBelonging (ordered : set.Ordered) (owner? : Option String)
    {aliases : NameMap String} (sorted : aliases.Sorted) :
    (set.setBelonging owner? aliases).Ordered := by
  cases owner? with
  | none => exact ⟨sorted, ordered.owned, ordered.each⟩
  | some owner =>
    refine ⟨ordered.shared, NameMap.sorted_put owner aliases ordered.owned, ?_⟩
    intro entry hm
    rcases NameMap.mem_put hm with rfl | hm
    · exact sorted
    · exact ordered.each entry hm

theorem Ordered.get?_visible (ordered : set.Ordered) (user name : String) :
    NameMap.get? name (set.visible user) = set.target? user name :=
  NameMap.get?_putAll (ordered.belonging (some user)).nodup_keys name set.shared

theorem mem_targets_of_get? {owner? : Option String} {name target : String}
    (h : (set.belonging owner?).get? name = some target) : target ∈ set.targets := by
  cases owner? with
  | none =>
    have hm : (name, target) ∈ set.shared := NameMap.mem_of_get? h
    exact List.mem_append_left _ (List.mem_map.mpr ⟨_, hm, rfl⟩)
  | some owner =>
    apply List.mem_append_right
    cases hown : set.owned.get? owner with
    | none => simp [AliasSet.belonging, hown, NameMap.get?] at h
    | some aliases =>
      have hget : NameMap.get? name aliases = some target := by
        simpa [AliasSet.belonging, hown] using h
      have hm : target ∈ aliases.map Prod.snd :=
        List.mem_map.mpr ⟨_, NameMap.mem_of_get? hget, rfl⟩
      exact List.mem_flatMap.mpr ⟨(owner, aliases), NameMap.mem_of_get? hown, hm⟩

theorem Ordered.mem_targets (ordered : set.Ordered) {target : String} :
    target ∈ set.targets ↔
      ∃ owner? name, (set.belonging owner?).get? name = some target := by
  refine ⟨fun hm => ?_, fun ⟨_, _, h⟩ => mem_targets_of_get? h⟩
  rcases List.mem_append.mp hm with hm | hm
  · obtain ⟨⟨name, _⟩, hentry, rfl⟩ := List.mem_map.mp hm
    exact ⟨none, name, NameMap.get?_of_mem ordered.shared hentry⟩
  · obtain ⟨⟨owner, aliases⟩, howner, hm⟩ := List.mem_flatMap.mp hm
    obtain ⟨⟨name, _⟩, hentry, rfl⟩ := List.mem_map.mp hm
    have own : set.belonging (some owner) = aliases := by
      simp [AliasSet.belonging, NameMap.get?_of_mem ordered.owned howner]
    refine ⟨some owner, name, ?_⟩
    rw [own]
    exact NameMap.get?_of_mem (ordered.each _ howner) hentry

end AliasSet

namespace Aliases

/-- The sets of both kinds are in order. -/
def Ordered (aliases : Aliases) : Prop :=
  ∀ kind, (aliases.ofKind kind).Ordered

/-- The aliases as one map. -/
def toMap (aliases : Aliases) : AliasMap :=
  fun key => ((aliases.ofKind key.kind).belonging key.owner?).get? key.name

theorem ordered_empty : empty.Ordered := by
  intro kind
  cases kind <;> exact AliasSet.ordered_empty

theorem ofKind_setKind (aliases : Aliases) (kind other : AliasKind) (set : AliasSet) :
    (aliases.setKind kind set).ofKind other =
      if other = kind then set else aliases.ofKind other := by
  cases kind <;> cases other <;> rfl

def setOwn (aliases : Aliases) (kind : AliasKind) (owner? : Option String)
    (own : NameMap String) : Aliases :=
  aliases.setKind kind ((aliases.ofKind kind).setBelonging owner? own)

theorem toMap_setOwn (aliases : Aliases) (kind : AliasKind) (owner? : Option String)
    (own : NameMap String) (key : AliasKey) : (aliases.setOwn kind owner? own).toMap key =
      if key.kind = kind ∧ key.owner? = owner? then own.get? key.name else aliases.toMap key := by
  obtain ⟨kind', owner?', name⟩ := key
  by_cases hkind : kind' = kind
  · subst hkind
    by_cases howner : owner?' = owner? <;>
      simp [toMap, setOwn, ofKind_setKind, AliasSet.belonging_setBelonging, howner]
  · simp [toMap, setOwn, ofKind_setKind, hkind]

theorem Ordered.setOwn {aliases : Aliases} (ordered : aliases.Ordered) (kind : AliasKind)
    (owner? : Option String) {own : NameMap String} (sorted : own.Sorted) :
    (aliases.setOwn kind owner? own).Ordered := by
  intro other
  rw [Aliases.setOwn, ofKind_setKind]
  split
  · exact (ordered kind).setBelonging owner? sorted
  · exact ordered other

theorem toMap_setOwn_of_get? {aliases : Aliases} {kind : AliasKind} {owner? : Option String}
    {name : String} {own : NameMap String} {value : Option String}
    (hown : ∀ other, own.get? other = if name = other then value else
      ((aliases.ofKind kind).belonging owner?).get? other) :
    (aliases.setOwn kind owner? own).toMap =
      Function.update aliases.toMap ⟨kind, owner?, name⟩ value := by
  funext key
  obtain ⟨kind', owner?', other⟩ := key
  rw [toMap_setOwn, Function.update_apply]
  by_cases there : kind' = kind ∧ owner?' = owner?
  · obtain ⟨rfl, rfl⟩ := there
    by_cases eq : other = name
    · simp [hown, eq]
    · have apart : name ≠ other := Ne.symm eq
      simp [hown, eq, apart, toMap]
  · have apart : (⟨kind', owner?', other⟩ : AliasKey) ≠ ⟨kind, owner?, name⟩ := by
      intro eq
      cases eq
      exact there ⟨rfl, rfl⟩
    simp only [if_neg there, if_neg apart]

theorem contains_own (aliases : Aliases) (kind : AliasKind) (owner? : Option String)
    (name : String) : ((aliases.ofKind kind).belonging owner?).contains name =
      (aliases.toMap ⟨kind, owner?, name⟩).isSome := rfl

theorem add_cases (aliases : Aliases) (kind : AliasKind) (owner? : Option String)
    (name target : String) :
    (∃ error, aliases.toMap.allows ⟨kind, owner?, name⟩ target = .error error ∧
      aliases.add kind owner? name target = .error error) ∨
    (∃ after, aliases.toMap.allows ⟨kind, owner?, name⟩ target = .ok () ∧
      aliases.add kind owner? name target = .ok after ∧
      after.toMap = Function.update aliases.toMap ⟨kind, owner?, name⟩ (some target) ∧
      (aliases.Ordered → after.Ordered)) := by
  have contains := contains_own aliases kind owner? name
  cases parsed : Path.parse target with
  | error cause =>
    refine Or.inl ⟨.invalidTarget target cause, ?_, ?_⟩
    · simp only [AliasMap.allows, parsed]
    · simp only [add, checkTarget, parsed]
  | ok path =>
    by_cases free : aliases.toMap ⟨kind, owner?, name⟩ = none
    · refine Or.inr ⟨aliases.setOwn kind owner?
        (((aliases.ofKind kind).belonging owner?).put name target), ?_, ?_,
        toMap_setOwn_of_get? fun other => ?_, fun ordered => ?_⟩
      · simp only [AliasMap.allows, parsed, if_pos free]
      · simp only [add, checkTarget, parsed, contains, free]
        rfl
      · exact NameMap.get?_put name other target _
      · have sorted := (ordered kind).belonging owner?
        exact ordered.setOwn kind owner? (NameMap.sorted_put name target sorted)
    · refine Or.inl ⟨.duplicated kind name, ?_, ?_⟩
      · simp only [AliasMap.allows, parsed, if_neg free]
      · have bound := Option.isSome_iff_ne_none.mpr free
        simp only [add, checkTarget, parsed, contains, bound, if_true]

theorem remove_eq (aliases : Aliases) (kind : AliasKind) (owner? : Option String)
    (name : String) :
    (aliases.remove kind owner? name).1 = (aliases.toMap ⟨kind, owner?, name⟩).isSome ∧
      (aliases.remove kind owner? name).2.toMap =
        Function.update aliases.toMap ⟨kind, owner?, name⟩ none ∧
      (aliases.Ordered → (aliases.remove kind owner? name).2.Ordered) := by
  have contains := contains_own aliases kind owner? name
  by_cases free : aliases.toMap ⟨kind, owner?, name⟩ = none
  · have kept : aliases.remove kind owner? name = (false, aliases) := by
      simp only [remove, contains, free]
      rfl
    have same : Function.update aliases.toMap ⟨kind, owner?, name⟩ none = aliases.toMap := by
      rw [← free, Function.update_eq_self]
    rw [kept, same, free]
    exact ⟨rfl, rfl, id⟩
  · have bound := Option.isSome_iff_ne_none.mpr free
    have removed : aliases.remove kind owner? name = (true, aliases.setOwn kind owner?
        (((aliases.ofKind kind).belonging owner?).erase name)) := by
      simp only [remove, contains, bound, if_true]
      rfl
    rw [removed, bound]
    refine ⟨rfl, toMap_setOwn_of_get? fun other => ?_, fun ordered => ?_⟩
    · split
      next eq =>
        subst eq
        exact NameMap.get?_erase_self name _
      next apart => exact NameMap.get?_erase_of_ne _ apart
    · have sorted := (ordered kind).belonging owner?
      exact ordered.setOwn kind owner? (NameMap.sorted_erase name sorted)

theorem checkTargets_ok {targets : List String} :
    checkTargets targets = .ok () ↔ ∀ target ∈ targets, ∃ path, Path.parse target = .ok path := by
  induction targets with
  | nil => simp [checkTargets]
  | cons target rest ih =>
    unfold checkTargets checkTarget
    rw [List.forall_mem_cons]
    cases parsed : Path.parse target with
    | ok path => simpa using ih
    | error cause => simp

theorem parse_of_check {aliases : Aliases} (checked : aliases.check = .ok ()) {key : AliasKey}
    {target : String} (h : aliases.toMap key = some target) :
    ∃ path, Path.parse target = .ok path := by
  obtain ⟨kind, owner?, name⟩ := key
  have hm : target ∈ (aliases.ofKind kind).targets := AliasSet.mem_targets_of_get? h
  refine checkTargets_ok.mp checked target (List.mem_append.mpr ?_)
  cases kind with
  | namespaces => exact Or.inl hm
  | tables => exact Or.inr hm

theorem Ordered.check_ok {aliases : Aliases} (ordered : aliases.Ordered) :
    aliases.check = .ok () ↔
      ∀ key target, aliases.toMap key = some target → ∃ path, Path.parse target = .ok path := by
  refine ⟨fun checked key target h => parse_of_check checked h, fun parsed => ?_⟩
  apply checkTargets_ok.mpr
  intro target hm
  rcases List.mem_append.mp hm with hm | hm
  · obtain ⟨owner?, name, h⟩ := (ordered .namespaces).mem_targets.mp hm
    exact parsed ⟨.namespaces, owner?, name⟩ target h
  · obtain ⟨owner?, name, h⟩ := (ordered .tables).mem_targets.mp hm
    exact parsed ⟨.tables, owner?, name⟩ target h

theorem source_target? (aliases : Aliases) (kind : AliasKind) (user name : String) :
    aliases.source.target? kind user name = aliases.toMap.seenBy kind user name := by
  cases kind <;> rfl

end Aliases

namespace Catalog

/-- What an operation does to the aliases, it does to the map. -/
theorem perform_toMap (catalog : Catalog) (operation : Operation) :
    (catalog.perform operation).2.2.aliases.toMap = catalog.aliases.toMap.perform operation ∧
      (catalog.aliases.Ordered → (catalog.perform operation).2.2.aliases.Ordered) := by
  cases operation with
  | ask number question =>
    cases hsession : catalog.sessions[number]? with
    | none => simp [perform, ask, hsession, AliasMap.perform]
    | some session => simp [perform, ask_eq hsession, resume, AliasMap.perform]
  | openSession settings? => exact ⟨rfl, id⟩
  | register connector enabled =>
    simp only [perform]
    cases catalog.registry.register connector enabled <;> exact ⟨rfl, id⟩
  | remove name =>
    simp only [perform]
    cases catalog.registry.remove name <;> exact ⟨rfl, id⟩
  | setEnabled name enabled =>
    simp only [perform]
    cases catalog.registry.setEnabled name enabled <;> exact ⟨rfl, id⟩
  | sessionSetEnabled name enabled =>
    simp only [perform]
    cases catalog.registry.setEnabledUnder catalog.lock? name enabled <;> exact ⟨rfl, id⟩
  | addAlias kind owner? name target =>
    rcases catalog.aliases.add_cases kind owner? name target with
      ⟨error, hallowed, hadd⟩ | ⟨after, hallowed, hadd, hmap, hordered⟩
    · simp only [perform, hadd, AliasMap.perform, hallowed]
      exact ⟨trivial, id⟩
    · simp only [perform, hadd, AliasMap.perform, hallowed]
      exact ⟨hmap, hordered⟩
  | removeAlias kind owner? name =>
    obtain ⟨_, hmap, hordered⟩ := catalog.aliases.remove_eq kind owner? name
    exact ⟨hmap, hordered⟩

theorem perform_addAlias (catalog : Catalog) (kind : AliasKind) (owner? : Option String)
    (name target : String) :
    (catalog.perform (.addAlias kind owner? name target)).1 =
        .aliasAdded (catalog.aliases.toMap.allows ⟨kind, owner?, name⟩ target) ∧
      ∀ error, catalog.aliases.toMap.allows ⟨kind, owner?, name⟩ target = .error error →
        (catalog.perform (.addAlias kind owner? name target)).2.2 = catalog := by
  rcases catalog.aliases.add_cases kind owner? name target with
    ⟨error, hallowed, hadd⟩ | ⟨after, hallowed, hadd, _⟩
  · simp only [perform, hadd, hallowed]
    exact ⟨trivial, fun _ _ => trivial⟩
  · simp only [perform, hadd, hallowed]
    refine ⟨trivial, fun error h => ?_⟩
    cases h

theorem perform_removeAlias (catalog : Catalog) (kind : AliasKind) (owner? : Option String)
    (name : String) : (catalog.perform (.removeAlias kind owner? name)).1 =
      .aliasRemoved (catalog.aliases.toMap ⟨kind, owner?, name⟩).isSome :=
  congrArg Answer.aliasRemoved (catalog.aliases.remove_eq kind owner? name).1

theorem run_toMap (catalog : Catalog) (operations : List Operation) :
    (catalog.run operations).aliases.toMap = catalog.aliases.toMap.run operations ∧
      (catalog.aliases.Ordered → (catalog.run operations).aliases.Ordered) := by
  induction operations generalizing catalog with
  | nil => exact ⟨rfl, id⟩
  | cons operation rest ih =>
    obtain ⟨hmap, hordered⟩ := catalog.perform_toMap operation
    obtain ⟨hrest, hordered'⟩ := ih (catalog.perform operation).2.2
    rw [hmap] at hrest
    exact ⟨hrest, fun ordered => hordered' (hordered ordered)⟩

/-- Aliases behave as one plain map. They are accepted to begin with if every target is a path.
After any operations an alias is added if its target is a path and the map has none of its key, else
nothing changes; a removal takes out that alias only; and a user sees, one by one or all together,
the user's own aliases before the public ones. -/
theorem aliases_refine_map {start : Catalog} (ordered : start.aliases.Ordered) :
    (start.aliases.check = .ok () ↔
      ∀ key target, start.aliases.toMap key = some target →
        ∃ path, Path.parse target = .ok path) ∧
    ∀ operations : List Operation,
      (start.run operations).aliases.toMap = start.aliases.toMap.run operations ∧
      (∀ kind owner? name target,
        ((start.run operations).perform (.addAlias kind owner? name target)).1 =
          .aliasAdded ((start.aliases.toMap.run operations).allows ⟨kind, owner?, name⟩ target) ∧
        ∀ error,
          (start.aliases.toMap.run operations).allows ⟨kind, owner?, name⟩ target = .error error →
          ((start.run operations).perform (.addAlias kind owner? name target)).2.2 =
            start.run operations) ∧
      (∀ kind owner? name,
        ((start.run operations).perform (.removeAlias kind owner? name)).1 =
          .aliasRemoved ((start.aliases.toMap.run operations) ⟨kind, owner?, name⟩).isSome) ∧
      ∀ kind user name,
        (start.run operations).aliases.source.target? kind user name =
          (start.aliases.toMap.run operations).seenBy kind user name ∧
        NameMap.get? name (((start.run operations).aliases.ofKind kind).visible user) =
          (start.aliases.toMap.run operations).seenBy kind user name := by
  refine ⟨ordered.check_ok, fun operations => ?_⟩
  obtain ⟨hmap, hordered⟩ := start.run_toMap operations
  rw [← hmap]
  refine ⟨rfl, (start.run operations).perform_addAlias, (start.run operations).perform_removeAlias,
    fun kind user name => ⟨?_, ?_⟩⟩
  · exact (start.run operations).aliases.source_target? kind user name
  · rw [(hordered ordered kind).get?_visible]
    rfl

/-- A public alias, one of a user's own that hides it, a public one that comes too late, and the
removal of the user's. -/
def hiddenAndShown : List Operation :=
  [.addAlias .namespaces none "fast" "dfs.tmp",
    .addAlias .namespaces (some "alice") "fast" "s3.cache",
    .addAlias .namespaces none "fast" "s3.late", .removeAlias .namespaces (some "alice") "fast"]

/-- The user sees the public alias again, as it was, alone and in the listing. -/
theorem public_alias_shown :
    ((empty .immediate).run hiddenAndShown).aliases.source.target? .namespaces "alice" "fast" =
      some "dfs.tmp" ∧
    NameMap.get? "fast" ((((empty .immediate).run hiddenAndShown).aliases.ofKind
      .namespaces).visible "alice") = some "dfs.tmp" := by
  have ordered : (empty .immediate).aliases.Ordered := Aliases.ordered_empty
  obtain ⟨_, _, _, looked⟩ := (aliases_refine_map ordered).2 hiddenAndShown
  obtain ⟨alone, listed⟩ := looked .namespaces "alice" "fast"
  have seen : ((empty .immediate).aliases.toMap.run hiddenAndShown).seenBy .namespaces "alice"
      "fast" = some "dfs.tmp" := by decide +kernel
  exact ⟨alone.trans seen, listed.trans seen⟩

end Catalog

end FederatedCatalog
