import FederatedCatalog.Proofs.Addition

namespace FederatedCatalog

namespace Content

theorem single_overlay_part {content : Content} {path : List String} {kind : NodeKind}
    {keep : List String → Bool} (hlower : path.map Text.lower = path)
    (hkind : content.kind path = some kind) (hkeep : keep path = true) :
    (ofLists [(path, kind)] []).overlay (content.part keep) = content.part keep := by
  ext other : 2
  · by_cases h : path = other
    · subst h
      simp [overlay, part, ofLists, hlower, hkind, hkeep]
    · simp [overlay, part, ofLists, hlower, h]
  · rfl

end Content

namespace Tree

theorem Gains.congr {before after : Tree} {gain gain' : Content} (h : before.Gains after gain)
    (heq : before.content.overlay gain = before.content.overlay gain') : before.Gains after gain' :=
  ⟨h.grown, h.content.trans heq⟩

def mergeChild (staging : Tree) (depth : Nat) (parent : NodeId) (tree : Tree)
    (entry : String × NodeId) : Tree :=
  match staging.node? entry.2 with
  | none => tree
  | some child =>
    let opened := tree.ensureChild parent child.name child.kind
    mergeFrom staging depth entry.2 opened.2 opened.1

theorem mergeFrom_succ {staging tree : Tree} {depth : Nat} {stagedParent parent : NodeId}
    {node : Node} (h : staging.node? stagedParent = some node) :
    mergeFrom staging (depth + 1) stagedParent parent tree =
      (staging.children stagedParent).foldl (mergeChild staging depth parent)
        (tree.addTables parent (node.tables.map Prod.snd)) := by
  rw [mergeFrom, h]
  rfl

/-- What is said of merging below a node, if no more than `depth` levels are there. -/
def MergesTo (staging : Tree) (depth : Nat) : Prop :=
  ∀ ⦃stagedParent parent : NodeId⦄ ⦃tree : Tree⦄ ⦃path : List String⦄, tree.Sound →
    staging.locate? path = some stagedParent → tree.locate? path = some parent →
    staging.size ≤ depth + stagedParent →
    tree.Gains (mergeFrom staging depth stagedParent parent tree)
      (staging.content.part path.isPrefixOf)

theorem mergeChild_opens {staging tree : Tree} {parent : NodeId} {path : List String}
    {entry : String × NodeId} (staged : staging.Sound) (plain : staging.Plain) (sound : tree.Sound)
    (hparent : tree.locate? path = some parent)
    (hchild : staging.locate? (path ++ [entry.1]) = some entry.2) : ∃ child,
      staging.node? entry.2 = some child ∧
      tree.Gains (tree.ensureChild parent child.name child.kind).1
        (.ofLists [(path ++ [entry.1], child.kind)] []) ∧
      (tree.ensureChild parent child.name child.kind).1.locate? (path ++ [entry.1]) =
        some (tree.ensureChild parent child.name child.kind).2 := by
  obtain ⟨child, hnode⟩ := staged.locate?_node hchild
  have hlineage := (staged.locate?_eq_some_iff.mp hchild).2
  have hne := staged.ne_root_of_locate? hchild (by simp)
  have hname : child.name = entry.1 := by
    obtain ⟨up, _, hup, _⟩ := staged.parented hnode hne
    rw [staged.lineage_of_parent? hnode hup] at hlineage
    have := (List.append_inj' hlineage rfl).2
    simpa using this
  have hlower := sound.map_lower_of_locate? hparent
  have admitted : tree.Admits parent (Text.lower child.name) child.kind := by
    cases hk : child.kind with
    | root => exact hne (staged.rootOnly hnode hk)
    | schema connector => trivial
    | compound target => exact absurd hk (plain hnode target)
    | «foreign» typeName => trivial
  obtain ⟨opened, hopened⟩ :=
    ensureChild_gains sound path child.name (by rw [hlower]; exact hparent) admitted
  rw [hname, staged.map_lower_of_locate? hchild] at hopened
  rw [hname] at opened
  exact ⟨child, hnode, hname ▸ opened, hname ▸ hopened⟩

theorem mergeChild_gains {staging tree : Tree} {depth : Nat} {parent : NodeId} {path : List String}
    {entry : String × NodeId} (merges : staging.MergesTo depth) (staged : staging.Sound)
    (plain : staging.Plain) (sound : tree.Sound) (hparent : tree.locate? path = some parent)
    (hchild : staging.locate? (path ++ [entry.1]) = some entry.2)
    (hdepth : staging.size ≤ depth + entry.2) :
    tree.Gains (mergeChild staging depth parent tree entry)
      (staging.content.part (path ++ [entry.1]).isPrefixOf) := by
  obtain ⟨child, hnode, opened, hopened⟩ := mergeChild_opens staged plain sound hparent hchild
  have below := merges (sound.of_grown opened.grown) hchild hopened hdepth
  have both := opened.trans below
  rw [Content.single_overlay_part (staged.map_lower_of_locate? hchild)
    (content_kind_of_locate? hchild hnode)
    (List.isPrefixOf_iff_prefix.mpr (List.prefix_refl _))] at both
  simpa only [mergeChild, hnode] using both

/-- Whether a path is that of one of the children below `path`, or lies behind it. -/
def underSome (entries : List (String × NodeId)) (path other : List String) : Bool :=
  entries.any fun entry => (path ++ [entry.1]).isPrefixOf other

theorem foldl_mergeChild_gains {staging tree : Tree} {depth : Nat} {parent : NodeId}
    {path : List String} (merges : staging.MergesTo depth) (staged : staging.Sound)
    (plain : staging.Plain) (sound : tree.Sound) (hparent : tree.locate? path = some parent)
    {entries : List (String × NodeId)}
    (hentries : ∀ entry ∈ entries, staging.locate? (path ++ [entry.1]) = some entry.2 ∧
      staging.size ≤ depth + entry.2) :
    tree.Gains (entries.foldl (mergeChild staging depth parent) tree)
      (staging.content.part (underSome entries path)) := by
  induction entries generalizing tree with
  | nil => exact Gains.refl tree
  | cons entry rest ih =>
    obtain ⟨hchild, hdepth⟩ := hentries entry (by simp)
    have first := mergeChild_gains merges staged plain sound hparent hchild hdepth
    have others := ih (sound.of_grown first.grown) (first.grown.keeps.locate? hparent)
      (fun other hm => hentries other (List.mem_cons_of_mem entry hm))
    have both := first.trans others
    rw [Content.part_overlay_part] at both
    exact both

theorem find?_titled {tables : NameMap TableEntry}
    (titled : ∀ entry ∈ tables, entry.2.name = entry.1) (name : String) :
    (tables.map Prod.snd).find? (fun entry => entry.name = name) = tables.get? name := by
  induction tables with
  | nil => rfl
  | cons first rest ih =>
    obtain ⟨key, entry⟩ := first
    have hkey : entry.name = key := titled (key, entry) (by simp)
    have hrest := ih (fun other hm => titled other (List.mem_cons_of_mem _ hm))
    by_cases h : key = name <;> simp [NameMap.get?, hkey, h, hrest]

theorem prefix_of_underSome {entries : List (String × NodeId)} {path other : List String}
    (h : underSome entries path other = true) : path <+: other ∧ other ≠ path := by
  obtain ⟨entry, _, hstart⟩ := List.any_eq_true.mp h
  obtain ⟨tail, rfl⟩ := List.isPrefixOf_iff_prefix.mp hstart
  exact ⟨⟨entry.1 :: tail, by simp⟩, by simp⟩

section Node

variable {staging : Tree} {path : List String} {id : NodeId} {node : Node}

theorem locate?_of_not_underSome (hid : staging.locate? path = some id)
    (hnode : staging.node? id = some node) {other : List String} (hstart : path <+: other)
    (hne : other ≠ path) (h : underSome node.children path other = false) :
    staging.locate? other = none := by
  obtain ⟨tail, rfl⟩ := hstart
  cases tail with
  | nil => simp at hne
  | cons key tail =>
    cases hget : node.children.get? key with
    | none => simp [locate?_append, hid, seek, hnode, hget]
    | some child =>
      have := List.any_eq_false.mp h _ (NameMap.mem_of_get? hget)
      exact absurd (List.isPrefixOf_iff_prefix.mpr ⟨tail, by simp⟩) this

theorem part_underSome (hid : staging.locate? path = some id)
    (hnode : staging.node? id = some node) {other : List String} (hne : other ≠ path) :
    (staging.content.part (underSome node.children path)).kind other =
      (staging.content.part path.isPrefixOf).kind other ∧
    ∀ name, (staging.content.part (underSome node.children path)).table other name =
      (staging.content.part path.isPrefixOf).table other name := by
  by_cases hstart : path <+: other
  · cases h : underSome node.children path other with
    | true => simp [Content.part, h, hstart]
    | false =>
      obtain ⟨hkind, htable⟩ :=
        content_of_locate?_none (locate?_of_not_underSome hid hnode hstart hne h)
      simp [Content.part, h, hkind, htable]
  · cases h : underSome node.children path other with
    | true => exact absurd (prefix_of_underSome h).1 hstart
    | false => simp [Content.part, h, hstart]

theorem overlay_part_underSome (sound : staging.Sound) (hid : staging.locate? path = some id)
    (hnode : staging.node? id = some node) :
    (Content.ofLists [(path, node.kind)]
      ((node.tables.map Prod.snd).map fun entry => (path, entry))).overlay
        (staging.content.part (underSome node.children path)) =
      staging.content.part path.isPrefixOf := by
  have hlower := sound.map_lower_of_locate? hid
  have hself : underSome node.children path path = false := by
    apply Bool.eq_false_iff.mpr
    intro h
    exact (prefix_of_underSome h).2 rfl
  have titled : ∀ entry ∈ node.tables, entry.2.name = entry.1 := by
    intro entry hm
    exact sound.titled hnode (NameMap.get?_of_mem (sound.ordered hnode).2 hm)
  ext other : 2
  · by_cases heq : other = path
    · subst heq
      simp [Content.overlay, Content.ofLists, Content.part, hlower,
        content_kind_of_locate? hid hnode]
    · simp only [Content.overlay, (part_underSome hid hnode heq).1]
      simp [Content.ofLists, hlower, Ne.symm heq]
  · funext name
    by_cases heq : other = path
    · subst heq
      have hlisted : ((((node.tables.map Prod.snd).map fun entry => (other, entry)).find?
          fun table => table.1.map Text.lower = other ∧ table.2.name = name).map Prod.snd) =
          node.tables.get? name := by
        rw [← find?_titled titled name]
        simp [List.find?_map, Function.comp_def, hlower]
      simp only [Content.overlay, Content.part, Content.ofLists, hself, hlisted]
      simp [content_table_of_locate? hid hnode name]
    · have hlisted : (((node.tables.map Prod.snd).map fun entry => (path, entry)).find?
          fun table => table.1.map Text.lower = other ∧ table.2.name = name) = none := by
        simp only [List.find?_map, Function.comp_def, hlower, Ne.symm heq, false_and,
          decide_false, Option.map_eq_none_iff]
        simp
      simp only [Content.overlay, (part_underSome hid hnode heq).2, Content.ofLists, hlisted]
      simp

end Node

theorem Sound.entries_within {staging : Tree} (staged : staging.Sound) {path : List String}
    {id : NodeId} {node : Node} {depth : Nat} (hid : staging.locate? path = some id)
    (hnode : staging.node? id = some node) (hdepth : staging.size ≤ depth + 1 + id) :
    ∀ entry ∈ node.children, staging.locate? (path ++ [entry.1]) = some entry.2 ∧
      staging.size ≤ depth + entry.2 := by
  intro entry hm
  have hget := NameMap.get?_of_mem (staged.ordered hnode).1 hm
  refine ⟨by simp [locate?_concat, hid, hnode, hget], ?_⟩
  have hlt : id < entry.2 := staged.child_lt hnode hget
  calc staging.size ≤ depth + 1 + id := hdepth
    _ = depth + (id + 1) := by rw [Nat.add_assoc, Nat.add_comm 1]
    _ ≤ depth + entry.2 := Nat.add_le_add_left hlt depth

theorem mergeFrom_gains {staging : Tree} (staged : staging.Sound) (plain : staging.Plain)
    (depth : Nat) : staging.MergesTo depth := by
  induction depth with
  | zero =>
    intro stagedParent parent tree path _ hstaged _ hdepth
    have hlt := (staged.locate?_eq_some_iff.mp hstaged).1
    rw [Nat.zero_add] at hdepth
    exact absurd hlt (Nat.not_lt.mpr hdepth)
  | succ depth ih =>
    intro stagedParent parent tree path sound hstaged hparent hdepth
    obtain ⟨node, hnode⟩ := staged.locate?_node hstaged
    have hlower := sound.map_lower_of_locate? hparent
    have hentries := staged.entries_within hstaged hnode hdepth
    have tables := addTables_gains sound (by rw [hlower]; exact hparent)
      (node.tables.map Prod.snd)
    have rest := foldl_mergeChild_gains ih staged plain (sound.of_grown tables.grown)
      (tables.grown.keeps.locate? hparent) hentries
    rw [mergeFrom_succ hnode, children_of_kind hnode (plain hnode),
      ← overlay_part_underSome staged hstaged hnode]
    refine (tables.trans rest).congr ?_
    -- the tree has a schema at the path already, so the staged one's kind is not seen
    obtain ⟨target, htarget⟩ := sound.locate?_node hparent
    have hkind := content_kind_of_locate? hparent htarget
    ext other : 2
    · by_cases heq : path = other
      · subst heq
        simp [Content.overlay, hkind]
      · simp [Content.overlay, Content.ofLists, hlower, heq]
    · rfl

/-- The merged tree has the content of both, with that of the first in front. -/
theorem merge_gains {tree staging : Tree} (sound : tree.Sound) (staged : staging.Sound)
    (plain : staging.Plain) : tree.Gains (tree.merge staging) staging.content := by
  have hstaged : staging.locate? [] = some root := rfl
  have hroot : tree.locate? [] = some root := rfl
  have below := mergeFrom_gains staged plain staging.size sound hstaged hroot
    (Nat.le_add_right _ _)
  have all : staging.content.part [].isPrefixOf = staging.content := by
    simp [Content.part]
  rw [all] at below
  exact below

/-- A registration lays what the connector added in the call that succeeded under what there is. -/
theorem register_gains {tree : Tree} (sound : tree.Sound) (connector : String)
    (additions : List Addition) : tree.Gains (tree.merge (staged connector additions))
      (.ofAdditions connector [] additions) := by
  refine (merge_gains sound (sound_staged connector additions)
    (plain_staged connector additions)).congr ?_
  rw [(staged_gains connector additions).content, content_bare, ← Content.overlay_assoc]
  congr 1
  obtain ⟨top, htop, _, _, hkind⟩ := sound.rooted
  have hroot : tree.content.kind [] = some .root := by
    rw [content_kind_of_locate? rfl htop, hkind]
  ext path : 2
  · cases path with
    | nil => simp [Content.overlay, Content.ofLists, hroot]
    | cons key rest => simp [Content.overlay, Content.ofLists]
  · simp [Content.overlay, Content.ofLists]

end Tree

end FederatedCatalog
