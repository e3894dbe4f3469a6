import FederatedCatalog.Proofs.Built
import FederatedCatalog.Proofs.CompoundNode
import FederatedCatalog.Proofs.Renumbering

namespace FederatedCatalog

namespace Content

variable {schemas : List (List String × NodeKind)} {tables : List (List String × TableEntry)}
  {path : List String}

theorem isSome_ofLists_kind : ((ofLists schemas tables).kind path).isSome ↔
    ∃ schema ∈ schemas, schema.1.map Text.lower = path := by
  simp [ofLists]

theorem isSome_ofLists_table {name : String} : ((ofLists schemas tables).table path name).isSome ↔
    ∃ table ∈ tables, table.1.map Text.lower = path ∧ table.2.name = name := by
  simp [ofLists]

end Content

namespace Tree

theorem renumbered_id : Node.renumbered id = id := by
  funext node
  simp [Node.renumbered]

/-- Whatever has a name in the other tree has it in this one too, at the same path: every schema, and
every table of a schema. Of which kind the schemas are, and which tables they are, may differ. -/
structure Covers (tree other : Tree) : Prop where
  schemas : ∀ {path}, (other.content.kind path).isSome → (tree.content.kind path).isSome
  tables : ∀ {path name},
    (other.content.table path name).isSome → (tree.content.table path name).isSome

variable {tree staging other : Tree}

theorem Covers.trans (covers : tree.Covers staging) (covers' : staging.Covers other) :
    tree.Covers other :=
  ⟨fun h => covers.schemas (covers'.schemas h), fun h => covers.tables (covers'.tables h)⟩

theorem Covers.overlay_eq (covers : tree.Covers other) :
    tree.content.overlay other.content = tree.content := by
  have or_eq : ∀ {α : Type} {first second : Option α}, (second.isSome → first.isSome) →
      first.or second = first := by
    intro α first second h
    cases first with
    | some value => rfl
    | none =>
      cases second with
      | none => rfl
      | some value => cases h rfl
  ext path : 2
  · exact or_eq covers.schemas
  · funext name
    exact or_eq covers.tables

theorem Gains.covers {after : Tree} (gains : tree.Gains after other.content) :
    after.Covers other where
  schemas := by
    intro path h
    rw [gains.content]
    simp [Content.overlay, h]
  tables := by
    intro path name h
    rw [gains.content]
    simp [Content.overlay, h]

theorem Keeps.eq_of_content {after : Tree} (keeps : tree.Keeps after) (sound : tree.Sound)
    (sound' : after.Sound) (same : tree.content = after.content) : after = tree := by
  have fixed : renumber tree after = id := by
    funext number
    by_cases h : number < tree.size
    · have hpath := sound.locate?_lineage h
      exact renumber_of_locate? sound hpath (keeps.locate? hpath)
    · exact if_neg h
  have nodes : ∀ number, after.node? number = tree.node? number := by
    intro number
    have hnode := node?_renumber sound sound' same number
    rw [fixed] at hnode
    simpa [renumbered_id] using hnode
  cases tree
  cases after
  exact congrArg Tree.mk (Array.ext_getElem? nodes)

theorem merge_of_covers (sound : tree.Sound) (staged : other.Sound) (plain : other.Plain)
    (covers : tree.Covers other) : tree.merge other = tree := by
  have gains := merge_gains sound staged plain
  apply gains.grown.keeps.eq_of_content sound (sound.of_grown gains.grown)
  rw [gains.content, covers.overlay_eq]

theorem content_staged (connector : String) (additions : List Addition) :
    (staged connector additions).content = .ofLists
      (([], .root) :: Addition.allSchemas connector [] additions)
      (Addition.allTables [] additions) := by
  rw [(staged_gains connector additions).content, content_bare, Content.ofAdditions,
    ← Content.ofLists_append]
  rfl

theorem covers_staged {connector connector' : String} {additions additions' : List Addition}
    (schemas : ∀ schema ∈ Addition.allSchemas connector' [] additions',
      ∃ old ∈ Addition.allSchemas connector [] additions,
        old.1.map Text.lower = schema.1.map Text.lower)
    (tables : ∀ table ∈ Addition.allTables [] additions',
      ∃ old ∈ Addition.allTables [] additions,
        old.1.map Text.lower = table.1.map Text.lower ∧ old.2.name = table.2.name) :
    (staged connector additions).Covers (staged connector' additions') where
  schemas := by
    intro path h
    rw [content_staged, Content.isSome_ofLists_kind] at h ⊢
    obtain ⟨schema, hm, rfl⟩ := h
    rcases List.mem_cons.mp hm with rfl | hm
    · exact ⟨_, List.mem_cons_self, rfl⟩
    · obtain ⟨old, hold, same⟩ := schemas schema hm
      exact ⟨old, List.mem_cons_of_mem _ hold, same⟩
  tables := by
    intro path name h
    rw [content_staged, Content.isSome_ofLists_table] at h ⊢
    obtain ⟨table, hm, rfl, rfl⟩ := h
    exact tables table hm

/-- What has been merged into a tree is not merged into it a second time, nor is anything that
connectors make on their own at the same paths and with tables of the same names: the tree stays
exactly as it is. -/
theorem Reached.merge_again (reached : tree.Reached) (made : staging.Staging) :
    (tree.merge staging).merge staging = tree.merge staging ∧
    ∀ other : Tree, other.Staging → staging.Covers other →
      (tree.merge staging).merge other = tree.merge staging := by
  obtain ⟨staged, plain⟩ := made.sound_plain
  have gains := merge_gains reached.sound staged plain
  have sound := reached.sound.of_grown gains.grown
  refine ⟨merge_of_covers sound staged plain gains.covers, fun other made' covers => ?_⟩
  obtain ⟨staged', plain'⟩ := made'.sound_plain
  exact merge_of_covers sound staged' plain' (gains.covers.trans covers)

/-- Additions to a compound node, with a table further below, and one to a schema that is another
connector's. -/
def intrusion : List Addition :=
  [.schema "dfs.tmp" none
      [.schema "Logs" none [.table (LabelledTable.entry ⟨"t", "old", false, none⟩ ⟨1, 0, ["0"]⟩)]],
    .schema "DFS" (some "FOREIGN") []]

/-- Additions at the same paths with a table of the same name, but in another order, with schemas of
other kinds and another table. -/
def repeatedIntrusion : List Addition :=
  [.schema "Dfs" none [], .schema "dfs.TMP" (some "FOREIGN")
    [.schema "logs" (some "FOREIGN")
      [.table (LabelledTable.entry ⟨"t", "new", true, none⟩ ⟨2, 0, ["0"]⟩)]]]

theorem tmpTree_merge_again :
    (staged "other" intrusion).Covers (staged "third" repeatedIntrusion) ∧
    (tmpTree.merge (staged "other" intrusion)).locate? ["dfs.tmp", "logs"] = some 4 ∧
    (tmpTree.merge (staged "other" intrusion)).merge (staged "third" repeatedIntrusion) =
      tmpTree.merge (staged "other" intrusion) := by
  have reached : tmpTree.Reached := .ask .bare _ (.child "dfs.tmp" false)
  have alone : root < bare.size := by decide
  have made : (staged "other" intrusion).Staging := .add .bare "other" alone intrusion
  have made' : (staged "third" repeatedIntrusion).Staging := .add .bare "third" alone _
  have covers : (staged "other" intrusion).Covers (staged "third" repeatedIntrusion) :=
    covers_staged (by decide +kernel) (by decide +kernel)
  exact ⟨covers, by decide +kernel, (reached.merge_again made).2 _ made' covers⟩

end Tree

end FederatedCatalog
