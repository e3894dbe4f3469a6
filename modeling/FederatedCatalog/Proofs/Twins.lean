import FederatedCatalog.Proofs.Mirror
import FederatedCatalog.Proofs.Walk

namespace FederatedCatalog

namespace NameMap

variable {α β : Type}

/-- The value of exactly that name, or unless case matters the first one whose name differs in case
only. -/
def match? (map : NameMap α) (name : String) (caseSensitive : Bool) : Option α :=
  match get? name map with
  | some value => some value
  | none =>
    if caseSensitive then none
    else (map.find? fun entry => Text.lower entry.1 = Text.lower name).map Prod.snd

theorem match?_map_value (f : α → β) (map : NameMap α) (name : String) (caseSensitive : Bool) :
    match? (map.map fun entry => (entry.1, f entry.2)) name caseSensitive =
      (match? map name caseSensitive).map f := by
  unfold match?
  rw [get?_map_value]
  cases get? name map with
  | some value => rfl
  | none =>
    cases caseSensitive with
    | true => rfl
    | false => simp [List.find?_map, Function.comp_def, Option.map_map]

end NameMap

namespace Tree

variable {tree first second : Tree} {registry : Registry}

theorem table?_eq_match? (tree : Tree) (id : NodeId) (name : String) (caseSensitive : Bool) :
    tree.table? id name caseSensitive = (tree.tables id).match? name caseSensitive := by
  unfold table? tables
  cases tree.node? (tree.follow id) with
  | none => cases caseSensitive <;> rfl
  | some node =>
    simp only [Option.bind_some, Option.map_some, Option.getD_some, Node.table?, NameMap.match?]
    cases node.tables.get? name <;> rfl

def tableViews (tree : Tree) (id : NodeId) : NameMap TableView :=
  (tree.tables id).map fun table => (table.1, table.2.view)

theorem table?_view (tree : Tree) (id : NodeId) (name : String) (caseSensitive : Bool) :
    (tree.table? id name caseSensitive).map TableEntry.view =
      (tree.tableViews id).match? name caseSensitive := by
  rw [table?_eq_match?, tableViews, NameMap.match?_map_value]

theorem get?_tables {path : List String} {id : NodeId} (hpath : tree.locate? path = some id)
    (hfollow : tree.follow id = id) (name : String) :
    (tree.tables id).get? name = tree.content.table path name := by
  rw [tables, hfollow]
  cases hnode : tree.node? id with
  | none => simp [content, hpath, hnode, NameMap.get?]
  | some node => simp [content_table_of_locate? hpath hnode]

theorem Sound.sorted_tables (sound : tree.Sound) (id : NodeId) : (tree.tables id).Sorted := by
  unfold tables
  cases h : tree.node? (tree.follow id) with
  | none => exact List.Pairwise.nil
  | some node => exact (sound.ordered h).2

theorem Faithful.lineage_follow (faithful : tree.Faithful registry) {id : NodeId}
    (hlt : id < tree.size) (hne : id ≠ root) : ∃ key rest, Undotted key ∧
      tree.lineage (tree.follow id) = key :: rest ∧ (tree.lineage id = key :: rest ∨
        ∃ inner, rest = [inner] ∧ tree.lineage id = [compoundName key inner]) := by
  have sound := faithful.sound
  rcases sound.lineage_follow hlt with ⟨outer, inner, _, hdot, hpath, hfollow, _⟩ | ⟨hkind, hfollow⟩
  · exact ⟨outer, [inner], hdot, hfollow, Or.inr ⟨inner, rfl, hpath⟩⟩
  · rw [hfollow]
    obtain ⟨node, hnode⟩ := node?_of_lt hlt
    have hthere := content_kind_of_locate? (sound.locate?_lineage hlt) hnode
    cases hpath : tree.lineage id with
    | nil => exact absurd hpath (sound.lineage_ne_nil hlt hne)
    | cons key rest =>
      rw [hpath] at hkind hthere
      refine ⟨key, rest, ?_, rfl, Or.inl rfl⟩
      apply Classical.byContradiction
      intro hdot
      cases rest with
      | nil =>
        obtain ⟨target, htarget⟩ := faithful.tidy.dotted hthere hdot
        exact hkind target (hthere.trans (congrArg some htarget))
      | cons inner below =>
        have habove : tree.content.kind ([key, inner] ++ below) = some node.kind := hthere
        exact sound.kind_above habove (faithful.hollow hdot)

theorem Faithful.alikeAt (faithful : first.Faithful registry) (faithful' : second.Faithful registry)
    {key : String} (dotless : Undotted key) (there : first.content.kind [key] ≠ none)
    (there' : second.content.kind [key] ≠ none) (rest : List String) :
    first.content.AlikeAt second.content (key :: rest) :=
  (faithful.served dotless there rest).trans (faithful'.served dotless there' rest).symm

/-- Nodes of two trees at the same path below the root. -/
def Twins (first second : Tree) (id id' : NodeId) : Prop :=
  ∃ path, path ≠ [] ∧ first.locate? path = some id ∧ second.locate? path = some id'

namespace Twins

variable {id id' : NodeId}

theorem lineage_eq (twins : Twins first second id id') (sound : first.Sound)
    (sound' : second.Sound) : first.lineage id = second.lineage id' := by
  obtain ⟨path, _, hpath, hpath'⟩ := twins
  rw [(sound.locate?_eq_some_iff.mp hpath).2, (sound'.locate?_eq_some_iff.mp hpath').2]

theorem follow (twins : Twins first second id id') (faithful : first.Faithful registry)
    (faithful' : second.Faithful registry) : ∃ key rest,
      first.locate? (key :: rest) = some (first.follow id) ∧
      second.locate? (key :: rest) = some (second.follow id') ∧
      ∀ below, first.content.AlikeAt second.content (key :: rest ++ below) := by
  have hsame := twins.lineage_eq faithful.sound faithful'.sound
  obtain ⟨path, hnil, hpath, hpath'⟩ := twins
  have hlt := (faithful.sound.locate?_eq_some_iff.mp hpath).1
  have hlt' := (faithful'.sound.locate?_eq_some_iff.mp hpath').1
  obtain ⟨key, rest, hdot, hfollow, hkey⟩ :=
    faithful.lineage_follow hlt (faithful.sound.ne_root_of_locate? hpath hnil)
  obtain ⟨key', rest', hdot', hfollow', hkey'⟩ :=
    faithful'.lineage_follow hlt' (faithful'.sound.ne_root_of_locate? hpath' hnil)
  have heq : key' :: rest' = key :: rest := by
    rw [hsame] at hkey
    rcases hkey with hkey | ⟨inner, rfl, hkey⟩
    · rcases hkey' with hkey' | ⟨inner', rfl, hkey'⟩
      · exact hkey'.symm.trans hkey
      · obtain ⟨rfl, _⟩ := List.cons.inj (hkey.symm.trans hkey')
        exact absurd hdot (not_undotted_compoundName key' inner')
    · rcases hkey' with hkey' | ⟨inner', rfl, hkey'⟩
      · obtain ⟨rfl, _⟩ := List.cons.inj (hkey'.symm.trans hkey)
        exact absurd hdot' (not_undotted_compoundName key inner)
      · obtain ⟨heq, _⟩ := List.cons.inj (hkey'.symm.trans hkey)
        obtain ⟨rfl, rfl⟩ := compoundName_inj hdot' hdot heq
        rfl
  rw [heq] at hfollow'
  have hlocate := faithful.sound.locate?_lineage (faithful.sound.follow_lt hlt)
  have hlocate' := faithful'.sound.locate?_lineage (faithful'.sound.follow_lt hlt')
  rw [hfollow] at hlocate
  rw [hfollow'] at hlocate'
  have there : ∀ {tree : Tree} {at' : NodeId}, tree.Sound → tree.locate? (key :: rest) = some at' →
      tree.content.kind [key] ≠ none := by
    intro tree at' sound hat
    have hat' : tree.locate? ([key] ++ rest) = some at' := hat
    obtain ⟨mid, hmid⟩ := locate?_of_append hat'
    rw [Ne, sound.content_kind_eq_none, hmid]
    exact Option.some_ne_none mid
  refine ⟨key, rest, hlocate, hlocate', ?_⟩
  intro below
  exact faithful.alikeAt faithful' hdot (there faithful.sound hlocate)
    (there faithful'.sound hlocate') (rest ++ below)

theorem walk? (twins : Twins first second id id') (faithful : first.Faithful registry)
    (faithful' : second.Faithful registry) (names : List String) :
    first.walk? id names = none ∧ second.walk? id' names = none ∨
    ∃ found found', first.walk? id names = some found ∧ second.walk? id' names = some found' ∧
      Twins first second found found' := by
  cases names with
  | nil => exact Or.inr ⟨id, id', rfl, rfl, twins⟩
  | cons name rest =>
    obtain ⟨key, above, hfollow, hfollow', alike⟩ := twins.follow faithful faithful'
    obtain ⟨path, hnil, hpath, hpath'⟩ := twins
    have hwalk := faithful.sound.walk?_eq_locate? (faithful.sound.locate?_eq_some_iff.mp hpath).1
      (faithful.sound.ne_root_of_locate? hpath hnil) (List.cons_ne_nil name rest)
    have hwalk' := faithful'.sound.walk?_eq_locate?
      (faithful'.sound.locate?_eq_some_iff.mp hpath').1
      (faithful'.sound.ne_root_of_locate? hpath' hnil) (List.cons_ne_nil name rest)
    rw [(faithful.sound.locate?_eq_some_iff.mp hfollow).2] at hwalk
    rw [(faithful'.sound.locate?_eq_some_iff.mp hfollow').2] at hwalk'
    rw [hwalk, hwalk']
    have hkind := (alike ((name :: rest).map Text.lower)).1
    cases hfound : first.locate? (key :: above ++ (name :: rest).map Text.lower) with
    | none =>
      rw [faithful.sound.content_kind_eq_none.mpr hfound] at hkind
      exact Or.inl ⟨rfl, faithful'.sound.content_kind_eq_none.mp hkind.symm⟩
    | some found =>
      obtain ⟨node, hnode⟩ := faithful.sound.locate?_node hfound
      rw [content_kind_of_locate? hfound hnode] at hkind
      obtain ⟨found', _, hfound', _⟩ := content_kind_eq_some.mp hkind.symm
      exact Or.inr ⟨found, found', rfl, hfound', _, by simp, hfound, hfound'⟩

theorem tableViews_eq (twins : Twins first second id id') (faithful : first.Faithful registry)
    (faithful' : second.Faithful registry) : first.tableViews id = second.tableViews id' := by
  obtain ⟨key, rest, hfollow, hfollow', alike⟩ := twins.follow faithful faithful'
  obtain ⟨path, _, hpath, hpath'⟩ := twins
  have settled := faithful.sound.follow_follow (faithful.sound.locate?_eq_some_iff.mp hpath).1
  have settled' := faithful'.sound.follow_follow (faithful'.sound.locate?_eq_some_iff.mp hpath').1
  apply NameMap.ext_of_sorted
  · exact NameMap.sorted_map_value TableEntry.view (faithful.sound.sorted_tables id)
  · exact NameMap.sorted_map_value TableEntry.view (faithful'.sound.sorted_tables id')
  · intro name
    have htables := get?_tables hfollow settled name
    have htables' := get?_tables hfollow' settled' name
    rw [tables, settled] at htables
    rw [tables, settled'] at htables'
    simp only [tableViews, NameMap.get?_map_value]
    rw [tables, tables, htables, htables']
    simpa using (alike []).2 name

theorem keys_eq (twins : Twins first second id id') (faithful : first.Faithful registry)
    (faithful' : second.Faithful registry) :
    (first.children id).keys = (second.children id').keys := by
  obtain ⟨key, rest, hfollow, hfollow', alike⟩ := twins.follow faithful faithful'
  obtain ⟨path, _, hpath, hpath'⟩ := twins
  have settled := faithful.sound.follow_follow (faithful.sound.locate?_eq_some_iff.mp hpath).1
  have settled' := faithful'.sound.follow_follow (faithful'.sound.locate?_eq_some_iff.mp hpath').1
  apply NameMap.keys_eq_of_isSome (faithful.sound.sorted_children id)
    (faithful'.sound.sorted_children id')
  intro name
  have hchildren := get?_children_of_locate? hfollow settled name
  have hchildren' := get?_children_of_locate? hfollow' settled' name
  rw [children, settled] at hchildren
  rw [children, settled'] at hchildren'
  rw [children, children, hchildren, hchildren', Bool.eq_iff_iff, Option.isSome_iff_ne_none,
    Option.isSome_iff_ne_none, Ne, Ne, ← faithful.sound.content_kind_eq_none,
    ← faithful'.sound.content_kind_eq_none, (alike [name]).1]

theorem typeName_eq (twins : Twins first second id id') (faithful : first.Faithful registry)
    (faithful' : second.Faithful registry) {node node' : Node} (hnode : first.node? id = some node)
    (hnode' : second.node? id' = some node') : node.kind.typeName = node'.kind.typeName := by
  obtain ⟨path, hnil, hpath, hpath'⟩ := twins
  have hkind := content_kind_of_locate? hpath hnode
  have hkind' := content_kind_of_locate? hpath' hnode'
  cases path with
  | nil => exact absurd rfl hnil
  | cons key rest =>
    by_cases hdot : Undotted key
    · have habove : first.content.kind ([key] ++ rest) = some node.kind := hkind
      have habove' : second.content.kind ([key] ++ rest) = some node'.kind := hkind'
      have alike := faithful.alikeAt faithful' hdot (faithful.sound.kind_above habove)
        (faithful'.sound.kind_above habove') rest
      rw [Option.some.inj (hkind.symm.trans (alike.1.trans hkind'))]
    · cases rest with
      | nil =>
        obtain ⟨target, htarget⟩ := faithful.tidy.dotted hkind hdot
        obtain ⟨target', htarget'⟩ := faithful'.tidy.dotted hkind' hdot
        rw [htarget, htarget']
        rfl
      | cons inner below =>
        have habove : first.content.kind ([key, inner] ++ below) = some node.kind := hkind
        exact absurd (faithful.hollow hdot) (faithful.sound.kind_above habove)

/-- Twins look the same. -/
theorem view?_eq (twins : Twins first second id id') (faithful : first.Faithful registry)
    (faithful' : second.Faithful registry) : first.view? id = second.view? id' := by
  have hsame := twins.lineage_eq faithful.sound faithful'.sound
  have hkeys := twins.keys_eq faithful faithful'
  have htables := congrArg (List.map Prod.snd) (twins.tableViews_eq faithful faithful')
  have htype := @typeName_eq first second registry id id' twins faithful faithful'
  obtain ⟨key, rest, hfollow, hfollow', _⟩ := twins.follow faithful faithful'
  have hpath := (faithful.sound.locate?_eq_some_iff.mp hfollow).2
  have hpath' := (faithful'.sound.locate?_eq_some_iff.mp hfollow').2
  obtain ⟨path, _, hid, hid'⟩ := twins
  obtain ⟨node, hnode⟩ := faithful.sound.locate?_node hid
  obtain ⟨node', hnode'⟩ := faithful'.sound.locate?_node hid'
  simp only [tableViews, List.map_map, Function.comp_def] at htables
  simp only [view?, hnode, hnode', Option.map_some, fullName, hsame, hpath, hpath', hkeys, htables,
    htype hnode hnode']

end Twins

end Tree

end FederatedCatalog
