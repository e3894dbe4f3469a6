import FederatedCatalog.Connector.Script
import FederatedCatalog.Proofs.Reached

namespace FederatedCatalog

namespace Tree

variable {tree : Tree}

def Keeping (tree : Tree) (id : NodeId) (name : String) (entry : TableEntry) : Prop :=
  ∃ node, tree.node? id = some node ∧ (name, entry) ∈ node.tables

theorem Sound.table?_root (sound : tree.Sound) {name : String} {entry : TableEntry} :
    tree.table? root name true = some entry ↔ tree.Keeping root name entry := by
  rw [table?, sound.follow_root]
  constructor
  · intro h
    obtain ⟨top, htop, htable⟩ := Option.bind_eq_some_iff.mp h
    rw [Node.table?_exact] at htable
    exact ⟨top, htop, NameMap.mem_of_get? htable⟩
  · rintro ⟨top, htop, hm⟩
    rw [htop, Option.bind_some, Node.table?_exact]
    exact NameMap.get?_of_mem (sound.ordered htop).2 hm

theorem Sound.name_of_keeping (sound : tree.Sound) {id : NodeId} {name : String}
    {entry : TableEntry} (h : tree.Keeping id name entry) : entry.name = name := by
  obtain ⟨node, hnode, hm⟩ := h
  exact sound.titled hnode (NameMap.get?_of_mem (sound.ordered hnode).2 hm)

end Tree

/-- How a table is found under a name, where the first run looks for an alias of the name. -/
structure LookupRun.FindsNamed (name : String) (first run : LookupRun (Option TableEntry)) :
    Prop where
  /-- Nothing is done but to look for an alias. -/
  after : run.after = first.after
  named : ∀ entry, run.answer = .ok (some entry) → entry.name = name
  aliased : ∀ target, first.answer = .ok (some target) → ∃ entry,
    run.answer = .ok (some entry) ∧ entry.sameTable target = true ∧ entry.table = target.table ∧
      entry.definition? = target.definition?
  own : first.answer = .ok none → ∃ found?, run.answer = .ok found? ∧
    ∀ entry, found? = some entry ↔ first.after.tree.Keeping Tree.root name entry
  failed : ∀ error, first.answer = .error error → run.answer = .error error

/-- A table that is found below the root bears the name that was asked for. It is the one that an
alias of that name stands for; if there is none, it is one of the root's own in the tree that the
look for an alias leaves, so a table counts that this look has loaded. If that look ends with an
error, so does the lookup, whatever tables the root has. -/
theorem Tree.Reached.findTable_named {state : LookupState} (reached : state.tree.Reached)
    (context : LookupContext) (name : String) (caseSensitive : Bool) :
    LookupRun.FindsNamed name (state.findAliasedTable context name caseSensitive)
      (state.findTable context name caseSensitive) := by
  have sound : (state.findAliasedTable context name caseSensitive).after.tree.Sound :=
    (reached.ask context (.aliasedTable name caseSensitive)).sound
  unfold LookupState.findTable
  generalize state.findAliasedTable context name caseSensitive = first at sound ⊢
  obtain ⟨answer, after⟩ := first
  constructor
  case after => rfl
  case named =>
    intro entry h
    rcases answer with error | _ | target
    · cases h
    · exact sound.name_of_keeping (sound.table?_root.mp (Except.ok.inj h))
    · cases h
      rfl
  case aliased =>
    intro target h
    cases h
    exact ⟨target.renamed name, rfl, decide_eq_true rfl, rfl, rfl⟩
  case own =>
    intro h
    cases h
    exact ⟨_, rfl, fun entry => sound.table?_root⟩
  case failed =>
    intro error h
    cases h
    rfl

def shelves : Connector :=
  .scripted 0 "shelves" [⟨[⟨["shelves"], none, [⟨"stock", "all", false, none⟩]⟩,
    ⟨[], none, [⟨"spare", "loose", true, some "select 1"⟩]⟩], none⟩]

/-- Two aliases for tables in the schema, of which there is one only. -/
def shelvesContext : LookupContext where
  settings := .immediate
  aliases := (Aliases.mk .empty ⟨[("goods", "shelves.stock"), ("spare", "shelves.gone")], []⟩).source
  lock? := none
  interrupts := fun _ => false

def shelvesState : LookupState :=
  ((Catalog.empty .immediate).run [.register shelves true]).state ⟨.bare, .immediate⟩

def stockEntry : TableEntry :=
  ⟨"stock", ⟨⟨0, 0, ["0", "0"]⟩, .table, .labelled "all"⟩, none⟩

/-- The table that is found under the name of an alias to nowhere was loaded by looking there. -/
theorem shelves_tables_named : shelvesState.tree = .bare ∧
    (shelvesState.findAliasedTable shelvesContext "spare" false).answer = .ok none ∧
    (∃ entry, (shelvesState.findTable shelvesContext "spare" false).answer = .ok (some entry) ∧
      entry.name = "spare") ∧
    (shelvesState.findAliasedTable shelvesContext "goods" false).answer = .ok (some stockEntry) ∧
    ∃ entry, (shelvesState.findTable shelvesContext "goods" false).answer = .ok (some entry) ∧
      entry.name = "goods" ∧ entry.table = stockEntry.table := by
  have reached : shelvesState.tree.Reached := .bare
  have nowhere : (shelvesState.findAliasedTable shelvesContext "spare" false).answer =
      .ok none := by decide +kernel
  have stock : (shelvesState.findAliasedTable shelvesContext "goods" false).answer =
      .ok (some stockEntry) := by decide +kernel
  have loaded : ((shelvesState.findAliasedTable shelvesContext "spare" false).after.tree.table?
      Tree.root "spare" true).isSome := by decide +kernel
  have spare := reached.findTable_named shelvesContext "spare" false
  have goods := reached.findTable_named shelvesContext "goods" false
  obtain ⟨entry, hentry⟩ := Option.isSome_iff_exists.mp loaded
  obtain ⟨found?, hfound, own⟩ := spare.own nowhere
  have later := (reached.ask shelvesContext (.aliasedTable "spare" false)).sound
  rw [(own entry).mpr (later.table?_root.mp hentry)] at hfound
  obtain ⟨renamed, hrenamed, _, same, _⟩ := goods.aliased stockEntry stock
  exact ⟨rfl, nowhere, ⟨entry, hfound, spare.named entry hfound⟩, stock, renamed, hrenamed,
    goods.named renamed hrenamed, same⟩

end FederatedCatalog
