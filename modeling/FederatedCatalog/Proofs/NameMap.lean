import FederatedCatalog.NameMap

namespace FederatedCatalog.NameMap

variable {α β : Type}

theorem get?_put (name other : String) (value : α) (map : NameMap α) :
    get? other (put name value map) = if name = other then some value else get? other map := by
  split
  next h => rw [h, get?_put_self]
  next h => exact get?_put_of_ne value map h

theorem get?_putNew (name other : String) (value : α) (map : NameMap α) :
    get? other (putNew name value map) =
      if name = other then (get? name map).or (some value) else get? other map := by
  unfold putNew contains
  cases h : get? name map with
  | none => simp [get?_put]
  | some old =>
    simp only [Option.isSome_some, ↓reduceIte, Option.some_or]
    split
    next eq => rw [← eq, h]
    next => rfl

theorem mem_of_get? {name : String} {value : α} {map : NameMap α}
    (h : get? name map = some value) : (name, value) ∈ map := by
  induction map with
  | nil => simp [get?] at h
  | cons entry rest ih =>
    obtain ⟨key, old⟩ := entry
    unfold get? at h
    split at h
    next eq =>
      cases Option.some.inj h
      simp [eq]
    next => exact List.mem_cons_of_mem _ (ih h)

theorem mem_put {name : String} {value : α} {map : NameMap α} {entry : String × α}
    (h : entry ∈ put name value map) : entry = (name, value) ∨ entry ∈ map := by
  induction map with
  | nil => exact Or.inl (List.mem_singleton.mp h)
  | cons first rest ih =>
    obtain ⟨key, old⟩ := first
    unfold put at h
    split at h
    next => exact List.mem_cons.mp h
    next =>
      split at h
      next =>
        rcases List.mem_cons.mp h with h | h
        · exact Or.inl h
        · exact Or.inr (List.mem_cons_of_mem _ h)
      next =>
        rcases List.mem_cons.mp h with rfl | h
        · exact Or.inr (by simp)
        · exact (ih h).imp_right (List.mem_cons_of_mem _)

theorem sorted_put {map : NameMap α} (name : String) (value : α) (h : Sorted map) :
    Sorted (put name value map) := by
  induction map with
  | nil => exact List.pairwise_singleton _ _
  | cons first rest ih =>
    obtain ⟨key, old⟩ := first
    have hrest := List.pairwise_cons.mp h
    unfold put
    split
    next hlt =>
      refine List.pairwise_cons.mpr ⟨?_, h⟩
      intro entry hm
      rcases List.mem_cons.mp hm with rfl | hm
      · exact hlt
      · exact String.lt_trans hlt (hrest.1 entry hm)
    next hlt =>
      split
      next eq => exact List.pairwise_cons.mpr ⟨fun entry hm => eq ▸ hrest.1 entry hm, hrest.2⟩
      next hne =>
        refine List.pairwise_cons.mpr ⟨?_, ih hrest.2⟩
        intro entry hm
        rcases mem_put hm with rfl | hm
        · rcases String.le_total key name with hle | hle
          · exact Classical.byContradiction fun hn =>
              hne (String.le_antisymm hle (String.not_lt.mp hn))
          · exact absurd (String.le_antisymm (String.not_lt.mp hlt) hle) hne
        · exact hrest.1 entry hm

theorem sorted_putNew {map : NameMap α} (name : String) (value : α) (h : Sorted map) :
    Sorted (putNew name value map) := by
  unfold putNew
  split
  · exact h
  · exact sorted_put name value h

theorem sorted_erase {map : NameMap α} (name : String) (h : Sorted map) :
    Sorted (erase name map) :=
  List.Pairwise.sublist List.filter_sublist h

theorem get?_eq_none_of_lt {name : String} {map : NameMap α} (h : ∀ entry ∈ map, name < entry.1) :
    get? name map = none := by
  induction map with
  | nil => rfl
  | cons first rest ih =>
    obtain ⟨key, old⟩ := first
    have hlt := h (key, old) (by simp)
    have hne : key ≠ name := fun eq => String.lt_irrefl name (eq ▸ hlt)
    simp [get?, hne, ih (fun entry hm => h entry (List.mem_cons_of_mem _ hm))]

theorem least_of_findSome? {κ : Type} [LT κ] {entries : List (κ × α)}
    (sorted : entries.Pairwise fun a b => a.1 < b.1) {f : κ × α → Option β} {found : β}
    (h : entries.findSome? f = some found) : ∃ entry ∈ entries, f entry = some found ∧
      ∀ other ∈ entries, f other ≠ none → other = entry ∨ entry.1 < other.1 := by
  obtain ⟨before, entry, behind, rfl, hentry, hbefore⟩ := List.findSome?_eq_some_iff.mp h
  refine ⟨entry, by simp, hentry, ?_⟩
  intro other hm hother
  rcases List.mem_append.mp hm with hm | hm
  · exact absurd (hbefore other hm) hother
  · rcases List.mem_cons.mp hm with rfl | hm
    · exact Or.inl rfl
    · exact Or.inr ((List.pairwise_cons.mp (List.pairwise_append.mp sorted).2.1).1 other hm)

theorem get?_of_mem {name : String} {value : α} {map : NameMap α} (sorted : Sorted map)
    (h : (name, value) ∈ map) : get? name map = some value := by
  induction map with
  | nil => simp at h
  | cons first rest ih =>
    obtain ⟨key, old⟩ := first
    have hrest := List.pairwise_cons.mp sorted
    rcases List.mem_cons.mp h with eq | hm
    · cases eq
      simp [get?]
    · have hlt := hrest.1 (name, value) hm
      have hne : key ≠ name := fun eq => String.lt_irrefl name (eq ▸ hlt)
      simp [get?, hne, ih hrest.2 hm]

theorem ext_of_sorted {a b : NameMap α} (ha : Sorted a) (hb : Sorted b)
    (h : ∀ name, get? name a = get? name b) : a = b := by
  induction a generalizing b with
  | nil =>
    cases b with
    | nil => rfl
    | cons first rest =>
      have := h first.1
      simp [get?] at this
  | cons first rest ih =>
    cases b with
    | nil =>
      have := h first.1
      simp [get?] at this
    | cons first' rest' =>
      obtain ⟨key, value⟩ := first
      obtain ⟨key', value'⟩ := first'
      have hrest := List.pairwise_cons.mp ha
      have hrest' := List.pairwise_cons.mp hb
      have hfirst : (key, value) ∈ (key', value') :: rest' :=
        mem_of_get? ((h key).symm.trans (by simp [get?]))
      have hfirst' : (key', value') ∈ (key, value) :: rest :=
        mem_of_get? ((h key').trans (by simp [get?]))
      have heq : key = key' ∧ value = value' := by
        rcases List.mem_cons.mp hfirst with eq | hm
        · exact ⟨congrArg Prod.fst eq, congrArg Prod.snd eq⟩
        · rcases List.mem_cons.mp hfirst' with eq | hm'
          · exact ⟨(congrArg Prod.fst eq).symm, (congrArg Prod.snd eq).symm⟩
          · exact absurd (hrest.1 _ hm') (String.lt_asymm (hrest'.1 _ hm))
      obtain ⟨rfl, rfl⟩ := heq
      congr 1
      apply ih hrest.2 hrest'.2
      intro name
      by_cases eq : key = name
      · subst eq
        rw [get?_eq_none_of_lt hrest.1, get?_eq_none_of_lt hrest'.1]
      · simpa [get?, eq] using h name

theorem get?_map_value (name : String) (f : α → β) (map : NameMap α) :
    get? name (map.map fun entry => (entry.1, f entry.2)) = (get? name map).map f := by
  induction map with
  | nil => rfl
  | cons first rest ih =>
    obtain ⟨key, old⟩ := first
    by_cases h : key = name <;> simp [get?, h, ih]

theorem sorted_map_value (f : α → β) {map : NameMap α} (h : Sorted map) :
    Sorted (map.map fun entry => (entry.1, f entry.2)) :=
  List.Pairwise.map _ (fun _ _ hlt => hlt) h

theorem keys_eq_of_isSome {a : NameMap α} {b : NameMap β} (ha : Sorted a) (hb : Sorted b)
    (h : ∀ name, (get? name a).isSome = (get? name b).isSome) : keys a = keys b := by
  have hunit : (a.map fun entry => (entry.1, ())) = b.map fun entry => (entry.1, ()) := by
    apply ext_of_sorted (sorted_map_value (fun _ => ()) ha) (sorted_map_value (fun _ => ()) hb)
    intro name
    have hname := h name
    have hmap : (get? name a).map (fun _ => ()) = (get? name b).map (fun _ => ()) := by
      cases ga : get? name a <;> cases gb : get? name b <;> simp [ga, gb] at hname ⊢
    calc get? name (a.map fun entry => (entry.1, ())) = (get? name a).map (fun _ => ()) :=
          get?_map_value name (fun _ => ()) a
      _ = (get? name b).map (fun _ => ()) := hmap
      _ = get? name (b.map fun entry => (entry.1, ())) := (get?_map_value name (fun _ => ()) b).symm
  have := congrArg (List.map Prod.fst) hunit
  simpa [keys, List.map_map, Function.comp_def] using this

theorem Sorted.nodup_keys {map : NameMap α} (h : Sorted map) : (keys map).Nodup := by
  apply List.pairwise_map.mpr
  refine List.Pairwise.imp ?_ h
  intro a b hlt eq
  rw [eq] at hlt
  exact String.lt_irrefl _ hlt

theorem get?_eq_none_of_not_mem {name : String} {map : NameMap α} (h : name ∉ keys map) :
    get? name map = none := by
  cases hget : get? name map with
  | none => rfl
  | some value => exact absurd (List.mem_map.mpr ⟨(name, value), mem_of_get? hget, rfl⟩) h

theorem get?_eq_some_iff {map : NameMap α} (nodup : (keys map).Nodup) {name : String} {value : α} :
    get? name map = some value ↔ (name, value) ∈ map := by
  refine ⟨mem_of_get?, fun hm => ?_⟩
  induction map with
  | nil => simp at hm
  | cons first rest ih =>
    obtain ⟨key, old⟩ := first
    have hrest := List.nodup_cons.mp nodup
    rcases List.mem_cons.mp hm with eq | hm
    · cases eq
      simp [get?]
    · have hne : key ≠ name := fun eq => hrest.1 (eq ▸ List.mem_map.mpr ⟨(name, value), hm, rfl⟩)
      simp [get?, hne, ih hrest.2 hm]

theorem get?_putAll {entries : NameMap α} (nodup : (keys entries).Nodup) (name : String)
    (map : NameMap α) : get? name (putAll map entries) = (get? name entries).or (get? name map) := by
  induction entries generalizing map with
  | nil => rfl
  | cons first rest ih =>
    obtain ⟨key, value⟩ := first
    have hrest := List.nodup_cons.mp nodup
    have step : get? name (putAll map ((key, value) :: rest)) =
        (get? name rest).or (get? name (put key value map)) := ih hrest.2 (put key value map)
    by_cases eq : key = name
    · subst eq
      rw [step, get?_eq_none_of_not_mem hrest.1]
      simp [get?]
    · rw [step, get?_put_of_ne value map eq]
      simp [get?, eq]

theorem sorted_putAll {map : NameMap α} (entries : List (String × α)) (h : Sorted map) :
    Sorted (putAll map entries) := by
  induction entries generalizing map with
  | nil => exact h
  | cons first rest ih => exact ih (sorted_put first.1 first.2 h)

theorem mem_putAll {entry : String × α} {map : NameMap α} {entries : List (String × α)}
    (hm : entry ∈ putAll map entries) : entry ∈ entries ∨ entry ∈ map := by
  induction entries generalizing map with
  | nil => exact .inr hm
  | cons first rest ih =>
    rcases ih hm with hm | hm
    · exact .inl (List.mem_cons_of_mem first hm)
    · rcases mem_put hm with rfl | hm
      · exact .inl List.mem_cons_self
      · exact .inr hm

theorem ofList_of_perm {map : NameMap α} {entries : List (String × α)} (sorted : Sorted map)
    (perm : entries.Perm map) : ofList entries = map := by
  have nodup : (keys entries).Nodup := ((perm.map Prod.fst).nodup_iff).mpr sorted.nodup_keys
  have empty : Sorted ([] : NameMap α) := List.Pairwise.nil
  apply ext_of_sorted (sorted_putAll entries empty) sorted
  intro name
  have listed : get? name entries = get? name map := by
    apply Option.ext
    intro value
    rw [get?_eq_some_iff nodup, get?_eq_some_iff sorted.nodup_keys]
    exact perm.mem_iff
  have looked := get?_putAll nodup name []
  rw [listed] at looked
  exact looked.trans Option.or_none

end FederatedCatalog.NameMap
