import FederatedCatalog.Proofs.Built
import FederatedCatalog.Proofs.Renumbering

namespace FederatedCatalog

namespace NameMap

variable {α : Type}

theorem put_comm {name other : String} (hne : name ≠ other) (value value' : α) (map : NameMap α) :
    put name value (put other value' map) = put other value' (put name value map) := by
  induction map with
  | nil => grind [put]
  | cons first rest ih => grind [put]

theorem putNew_comm {name other : String} (hne : name ≠ other) (value value' : α)
    (map : NameMap α) :
    putNew name value (putNew other value' map) = putNew other value' (putNew name value map) := by
  have kept : contains name (putNew other value' map) = contains name map := by
    rw [contains, get?_putNew, if_neg hne.symm, contains]
  have kept' : contains other (putNew name value map) = contains other map := by
    rw [contains, get?_putNew, if_neg hne, contains]
  by_cases h : contains name map <;> by_cases h' : contains other map <;>
    simp_all [putNew, put_comm hne]

end NameMap

namespace Tree

section Tables

variable {entries entries' : List TableEntry}

theorem addTable_comm (tree : Tree) (parent : NodeId) {entry other : TableEntry}
    (hne : entry.name ≠ other.name) : (tree.addTable parent entry).addTable parent other =
      (tree.addTable parent other).addTable parent entry := by
  apply congrArg Tree.mk
  apply Array.ext_getElem?
  intro id
  simp only [addTable, Array.getElem?_modify]
  split
  next =>
    cases tree.nodes[id]? with
    | none => rfl
    | some node => simp [NameMap.putNew_comm hne]
  next => rfl

theorem addTables_of_perm (tree : Tree) (parent : NodeId) (perm : entries.Perm entries')
    (distinct : ∀ entry ∈ entries, ∀ other ∈ entries, entry.name = other.name → entry = other) :
    tree.addTables parent entries = tree.addTables parent entries' := by
  apply perm.foldl_eq'
  intro entry hm other hm' before
  by_cases hname : entry.name = other.name
  · rw [distinct entry hm other hm' hname]
  · exact before.addTable_comm parent hname

theorem Sound.tables_distinct {tree : Tree} (sound : tree.Sound) {id : NodeId} {node : Node}
    (h : tree.node? id = some node) : ∀ entry ∈ node.tables.map Prod.snd,
      ∀ other ∈ node.tables.map Prod.snd, entry.name = other.name → entry = other := by
  have listed : ∀ entry ∈ node.tables.map Prod.snd, node.tables.get? entry.name = some entry := by
    intro entry hm
    obtain ⟨⟨name, _⟩, hentry, rfl⟩ := List.mem_map.mp hm
    have hget := NameMap.get?_of_mem (sound.ordered h).2 hentry
    rw [sound.titled h hget]
    exact hget
  intro entry hm other hm' hname
  have hget := listed entry hm
  rw [hname, listed other hm'] at hget
  exact (Option.some.inj hget).symm

end Tables

section Listed

/-- The tables of each node, in an order of their own. -/
def Lists (tree : Tree) (listing : NodeId → List TableEntry) : Prop :=
  ∀ ⦃id : NodeId⦄ ⦃node : Node⦄, tree.node? id = some node →
    (listing id).Perm (node.tables.map Prod.snd)

/-- What `mergeFrom` does, with the tables of each node in the order in which they are listed. -/
def mergeListedFrom (staging : Tree) (listing : NodeId → List TableEntry) :
    Nat → NodeId → NodeId → Tree → Tree
  | 0, _, _, tree => tree
  | depth + 1, stagedParent, parent, tree =>
    match staging.node? stagedParent with
    | none => tree
    | some _ =>
      (staging.children stagedParent).foldl
        (fun tree entry =>
          match staging.node? entry.2 with
          | none => tree
          | some child =>
            let opened := tree.ensureChild parent child.name child.kind
            mergeListedFrom staging listing depth entry.2 opened.2 opened.1)
        (tree.addTables parent (listing stagedParent))

def mergeListed (tree staging : Tree) (listing : NodeId → List TableEntry) : Tree :=
  mergeListedFrom staging listing staging.size root root tree

variable {staging : Tree} {listing : NodeId → List TableEntry}

theorem mergeListedFrom_eq (staged : staging.Sound) (lists : staging.Lists listing) (depth : Nat)
    (stagedParent parent : NodeId) (tree : Tree) :
    mergeListedFrom staging listing depth stagedParent parent tree =
      mergeFrom staging depth stagedParent parent tree := by
  induction depth generalizing stagedParent parent tree with
  | zero => rfl
  | succ depth ih =>
    cases hnode : staging.node? stagedParent with
    | none => simp only [mergeListedFrom, mergeFrom, hnode]
    | some node =>
      have sorted := tree.addTables_of_perm parent (lists hnode).symm (staged.tables_distinct hnode)
      rw [mergeFrom_succ hnode, sorted, mergeListedFrom, hnode]
      refine congrArg (fun step => List.foldl step _ _) (funext₂ fun before entry => ?_)
      unfold mergeChild
      cases staging.node? entry.2 with
      | none => rfl
      | some child => exact ih entry.2 _ _

theorem mergeListed_eq (staged : staging.Sound) (lists : staging.Lists listing) (tree : Tree) :
    tree.mergeListed staging listing = tree.merge staging :=
  mergeListedFrom_eq staged lists staging.size root root tree

end Listed

section SameContent

variable {first second : Tree} (sound : first.Sound) (sound' : second.Sound)
  (plain : first.Plain) (plain' : second.Plain) (same : first.content = second.content)

include sound sound' plain plain' same

theorem mergeFrom_renumber (depth : Nat) (stagedParent parent : NodeId) (tree : Tree) :
    mergeFrom second depth (renumber first second stagedParent) parent tree =
      mergeFrom first depth stagedParent parent tree := by
  induction depth generalizing stagedParent parent tree with
  | zero => rfl
  | succ depth ih =>
    have hnode' := node?_renumber sound sound' same stagedParent
    cases hnode : first.node? stagedParent with
    | none =>
      rw [hnode, Option.map_none] at hnode'
      simp only [mergeFrom, hnode, hnode']
    | some node =>
      rw [hnode, Option.map_some] at hnode'
      have each : ∀ before entry,
          mergeChild second depth parent before (entry.1, renumber first second entry.2) =
            mergeChild first depth parent before entry := by
        intro before entry
        unfold mergeChild
        rw [node?_renumber sound sound' same entry.2]
        cases first.node? entry.2 with
        | none => rfl
        | some child => exact ih entry.2 _ _
      -- The children have the same names, so they come in the same order.
      rw [mergeFrom_succ hnode, mergeFrom_succ hnode', children_of_kind hnode (plain hnode),
        children_of_kind hnode' (plain' hnode'), Node.renumbered, List.foldl_map]
      simp only [each]

theorem merge_eq_of_content (tree : Tree) : tree.merge first = tree.merge second := by
  have htop : first.locate? [] = some root := rfl
  have hroot : renumber first second root = root := renumber_of_locate? sound htop rfl
  have below := mergeFrom_renumber sound sound' plain plain' same first.size root root tree
  rw [hroot] at below
  rw [merge, merge, ← size_eq_of_content sound sound' same, below]

end SameContent

/-- Trees that connectors made on their own, in whatever order and whoever made what, are merged
into any tree with the same result if they have the same content: the merged trees are equal, with
the numbers of all their nodes. The order in which the tables of a node come makes no difference
either. -/
theorem Staging.merge_by_content {first second : Tree} (made : first.Staging)
    (made' : second.Staging) (same : first.content = second.content) (tree : Tree) :
    tree.merge first = tree.merge second ∧
    ∀ {listing listing' : NodeId → List TableEntry}, first.Lists listing → second.Lists listing' →
      tree.mergeListed first listing = tree.mergeListed second listing' := by
  obtain ⟨sound, plain⟩ := made.sound_plain
  obtain ⟨sound', plain'⟩ := made'.sound_plain
  have merged := merge_eq_of_content sound sound' plain plain' same tree
  refine ⟨merged, fun {listing listing'} lists lists' => ?_⟩
  calc tree.mergeListed first listing = tree.merge first := mergeListed_eq sound lists tree
    _ = tree.merge second := merged
    _ = tree.mergeListed second listing' := (mergeListed_eq sound' lists' tree).symm

section Compare

def entered? (tree : Tree) (path : List String) : Option (NodeKind × NameMap TableEntry) :=
  ((tree.locate? path).bind tree.node?).map fun node => (node.kind, node.tables)

variable {first second : Tree}

theorem content_eq_of_entered (h : ∀ path, first.entered? path = second.entered? path) :
    first.content = second.content := by
  have read : ∀ tree : Tree, tree.content = ⟨fun path => (tree.entered? path).map Prod.fst,
      fun path name => (tree.entered? path).bind fun entered => entered.2.get? name⟩ := by
    intro tree
    ext path : 2
    · simp only [content, entered?, Option.map_map, Function.comp_def]
    · funext name
      simp only [content, entered?, Option.bind_map, Function.comp_def]
  rw [read first, read second, funext h]

theorem content_eq_of_nodes (sound : first.Sound) (sound' : second.Sound)
    (h : ∀ id < first.size,
      second.entered? (first.lineage id) = first.entered? (first.lineage id))
    (h' : ∀ id < second.size,
      first.entered? (second.lineage id) = second.entered? (second.lineage id)) :
    first.content = second.content := by
  apply content_eq_of_entered
  intro path
  cases hid : first.locate? path with
  | some id =>
    obtain ⟨hlt, rfl⟩ := sound.locate?_eq_some_iff.mp hid
    exact (h id hlt).symm
  | none =>
    cases hid' : second.locate? path with
    | some id =>
      obtain ⟨hlt, rfl⟩ := sound'.locate?_eq_some_iff.mp hid'
      exact h' id hlt
    | none => simp [entered?, hid, hid']

end Compare

def ordersTable : TableEntry :=
  LabelledTable.entry ⟨"orders", "o", false, none⟩ ⟨0, 0, ["0"]⟩

def totalsTable : TableEntry :=
  LabelledTable.entry ⟨"totals", "t", true, some "select 1"⟩ ⟨0, 0, ["1"]⟩

/-- Two schemas, and then a schema in the first of them. -/
def hastyTree : Tree :=
  addAll "dfs" 1
    (staged "dfs"
      [.schema "tmp" none [], .schema "ARCHIVE" none [.table ordersTable, .table totalsTable]])
    [.schema "odd" (some "FOREIGN") []]

/-- The same in the order of the names, with the tables the other way round. -/
def tidyTree : Tree :=
  staged "dfs"
    [.schema "archive" none [.table totalsTable, .table ordersTable],
      .schema "Tmp" none [.schema "Odd" (some "FOREIGN") []]]

def tablesBackwards (tree : Tree) (id : NodeId) : List TableEntry :=
  (((tree.node? id).map fun node => node.tables.map Prod.snd).getD []).reverse

theorem lists_tablesBackwards (tree : Tree) : tree.Lists tree.tablesBackwards := by
  intro id node h
  rw [tablesBackwards, h, Option.map_some, Option.getD_some]
  exact List.reverse_perm _

/-- Two trees with other numbers for the same schemas are merged alike, in whichever order the
tables come. -/
theorem hastyTree_tidyTree_merge : hastyTree.locate? ["archive"] = some 2 ∧
    tidyTree.locate? ["archive"] = some 1 ∧ hastyTree.content = tidyTree.content ∧
    filesTree.merge hastyTree = filesTree.merge tidyTree ∧
    filesTree.mergeListed hastyTree hastyTree.tablesBackwards =
      filesTree.mergeListed tidyTree fun id => (tidyTree.tablesBackwards id).reverse := by
  have alone : root < bare.size := by decide
  have made : (staged "dfs" [.schema "tmp" none [],
      .schema "ARCHIVE" none [.table ordersTable, .table totalsTable]]).Staging :=
    .add .bare "dfs" alone _
  have hasty : hastyTree.Staging := .add made "dfs" (by decide +kernel) _
  have tidy : tidyTree.Staging := .add .bare "dfs" alone _
  have same : hastyTree.content = tidyTree.content :=
    content_eq_of_nodes hasty.sound_plain.1 tidy.sound_plain.1 (by decide +kernel)
      (by decide +kernel)
  obtain ⟨merged, listed⟩ := hasty.merge_by_content tidy same filesTree
  refine ⟨by decide +kernel, by decide +kernel, same, merged,
    listed hastyTree.lists_tablesBackwards ?_⟩
  exact fun id node h => (List.reverse_perm _).trans (tidyTree.lists_tablesBackwards h)

end Tree

end FederatedCatalog
