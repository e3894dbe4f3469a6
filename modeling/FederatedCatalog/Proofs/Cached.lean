import FederatedCatalog.Catalog
import FederatedCatalog.Proofs.LookupEnding

namespace FederatedCatalog

namespace Tree

/-- The node that a name below the root stands for, if everything is in the tree. `target?` is what
the name is an alias of. -/
def named? (tree : Tree) (target? : Option String) (name : String) : Option NodeId :=
  match target? with
  | none => tree.child? root name
  | some target =>
    match Path.parse target with
    | .error _ => none
    | .ok path => (tree.child? root path.first).bind fun id => tree.walk? id path.rest

theorem Sound.walk?_ne_root {tree : Tree} (sound : tree.Sound) {start id : NodeId}
    {names : List String} (hne : start ≠ root) (h : tree.walk? start names = some id) :
    id ≠ root := by
  induction names generalizing start with
  | nil =>
    cases Option.some.inj h
    exact hne
  | cons name rest ih =>
    obtain ⟨child, hchild, hrest⟩ := Option.bind_eq_some_iff.mp h
    exact ih (sound.child?_ne_root hchild) hrest

theorem Sound.named?_ne_root {tree : Tree} (sound : tree.Sound) {target? : Option String}
    {name : String} {id : NodeId} (h : tree.named? target? name = some id) : id ≠ root := by
  unfold named? at h
  split at h
  next => exact sound.child?_ne_root h
  next =>
    split at h
    next => cases h
    next =>
      obtain ⟨child, hchild, hrest⟩ := Option.bind_eq_some_iff.mp h
      exact sound.walk?_ne_root (sound.child?_ne_root hchild) hrest

theorem Keeps.named? {before after : Tree} (keeps : before.Keeps after) (sound : before.Sound)
    (sound' : after.Sound) {target? : Option String} {name : String} {id : NodeId}
    (h : before.named? target? name = some id) : after.named? target? name = some id := by
  unfold Tree.named? at h ⊢
  split at h
  next => exact keeps.child? sound sound' h
  next =>
    split at h
    next => cases h
    next =>
      obtain ⟨child, hchild, hrest⟩ := Option.bind_eq_some_iff.mp h
      simp only [keeps.child? sound sound' hchild, Option.bind_some]
      exact keeps.walk? sound sound' hrest

end Tree

namespace LookupRun

variable {α β : Type} {run : LookupRun α} {value : α → Tree → β}

@[simp] theorem read_after : (run.read value).after = run.after := rfl

theorem read_ok {found : β} (h : (run.read value).answer = .ok found) :
    ∃ answer, run.answer = .ok answer ∧ value answer run.after.tree = found := by
  obtain ⟨answer, after⟩ := run
  cases answer with
  | error error => cases h
  | ok answer => exact ⟨answer, rfl, Except.ok.inj h⟩

theorem read_read {γ : Type} (run : LookupRun α) (value : α → Tree → β) (value' : β → Tree → γ) :
    (run.read value).read value' = run.read fun answer tree => value' (value answer tree) tree := by
  obtain ⟨answer, after⟩ := run
  cases answer <;> rfl

end LookupRun

/-- The root's child that is looked up on the way to what an alias for a table stands for. -/
def LookupContext.tableRootName? (context : LookupContext) (name : String) : Option String :=
  match context.aliases.tableAlias context.settings.user name with
  | none => none
  | some target =>
    match Path.parse target with
    | .error _ => none
    | .ok path => path.parents.head?.bind context.rootName?

/-- The root's child that is looked up for a question. -/
def Question.rootName? (context : LookupContext) : Question → Option String
  | .child name _ => context.rootName? name
  | .childOf parent name _ => if parent = Tree.root then context.rootName? name else none
  | .path target _ => context.rootName? target.first
  | .aliasedTable name _ => context.tableRootName? name
  | .table name _ => context.tableRootName? name

namespace LookupState

variable {state : LookupState} {context : LookupContext}

theorem findSchema_found {name : String} {id : NodeId}
    (h : (state.findSchema context name).answer = .ok (some id)) :
    (state.findSchema context name).after.tree.child? Tree.root name = some id := by
  unfold findSchema at h ⊢
  simp only at h ⊢
  rw [← Tree.child?_lower]
  cases hchild : state.tree.child? Tree.root (Text.lower name) with
  | some found =>
    simp only [hchild] at h ⊢
    exact hchild.trans (congrArg _ (Option.some.inj (Except.ok.inj h)))
  | none =>
    simp only [hchild] at h ⊢
    obtain ⟨_, _, hloaded⟩ := LookupRun.read_ok h
    exact hloaded

theorem findSchema_cached {name : String} {id : NodeId}
    (h : state.tree.child? Tree.root name = some id) :
    state.findSchema context name =
      ⟨.ok (some id), state.note (.cached (Text.lower name))⟩ := by
  rw [← Tree.child?_lower] at h
  simp only [findSchema, h]

theorem findSchema_registers {name : String} {connector : Connector}
    (serves : state.registry.enabled? name = some connector)
    (free : state.tree.child? Tree.root name = none) :
    state.findSchema context name = (state.register context (Text.lower name) connector).read
      fun _ tree => tree.child? Tree.root (Text.lower name) := by
  rw [← Tree.child?_lower] at free
  rw [← Registry.enabled?_lower] at serves
  simp only [findSchema, free, load, serves]

theorem findChild_found {name : String} {caseSensitive : Bool} {id : NodeId}
    (h : (state.findChild context name caseSensitive).answer = .ok (some id)) :
    (state.findChild context name caseSensitive).after.tree.named?
      (context.aliases.namespaceAlias context.settings.user name) name = some id := by
  unfold findChild at h ⊢
  unfold Tree.named?
  cases htarget : context.aliases.namespaceAlias context.settings.user name with
  | none =>
    simp only [htarget] at h ⊢
    exact findSchema_found h
  | some target =>
    simp only [htarget] at h ⊢
    cases hparse : Path.parse target with
    | error cause =>
      simp only [hparse] at h
      cases h
    | ok path =>
      simp only [hparse] at h ⊢
      obtain ⟨id?, hschema, hwalk⟩ := LookupRun.read_ok h
      obtain ⟨first, rfl, hrest⟩ := Option.bind_eq_some_iff.mp hwalk
      rw [LookupRun.read_after, findSchema_found hschema]
      exact hrest

theorem findChild_named {name : String} {id : NodeId} (caseSensitive : Bool)
    (h : state.tree.named? (context.aliases.namespaceAlias context.settings.user name) name =
      some id) :
    ∃ notices, state.findChild context name caseSensitive =
      ⟨.ok (some id), state.noted notices⟩ := by
  unfold findChild
  unfold Tree.named? at h
  cases htarget : context.aliases.namespaceAlias context.settings.user name with
  | none =>
    simp only [htarget] at h ⊢
    have hcached : (state.note (.resolving name caseSensitive)).findSchema context name =
        ⟨.ok (some id), (state.note (.resolving name caseSensitive)).note
          (.cached (Text.lower name))⟩ := findSchema_cached h
    exact ⟨[.resolving name caseSensitive, .cached (Text.lower name)], hcached⟩
  | some target =>
    simp only [htarget] at h ⊢
    cases hparse : Path.parse target with
    | error cause =>
      simp only [hparse] at h
      cases h
    | ok path =>
      simp only [hparse] at h ⊢
      obtain ⟨first, hfirst, hrest⟩ := Option.bind_eq_some_iff.mp h
      have hcached : ((state.note (.resolving name caseSensitive)).note
          (.schemaAlias name path)).findSchema context path.first =
          ⟨.ok (some first), ((state.note (.resolving name caseSensitive)).note
            (.schemaAlias name path)).note (.cached (Text.lower path.first))⟩ :=
        findSchema_cached hfirst
      refine ⟨[.resolving name caseSensitive, .schemaAlias name path,
        .cached (Text.lower path.first)], ?_⟩
      rw [hcached, ← hrest]
      rfl

theorem walk_of_ne_root (sound : state.tree.Sound) (caseSensitive : Bool) {id : NodeId}
    (h : id ≠ Tree.root) (names : List String) :
    state.walk context caseSensitive id names = ⟨.ok (state.tree.walk? id names), state⟩ := by
  induction names generalizing id with
  | nil => rfl
  | cons name rest ih =>
    simp only [walk, findChildOf, if_neg h, LookupRun.andThen_ok, Tree.walk?]
    cases hchild : state.tree.child? id name with
    | none => rfl
    | some child =>
      simp only [Option.bind_some]
      exact ih (sound.child?_ne_root hchild)

/-- Only the first name of a walk from the root may load something. -/
theorem walk_from_root (sound : state.tree.Sound) (caseSensitive : Bool) (first : String)
    (rest : List String) : state.walk context caseSensitive Tree.root (first :: rest) =
      (state.findChild context first caseSensitive).read fun id? tree =>
        id?.bind fun id => tree.walk? id rest := by
  have sound' := (state.findChild_course context first caseSensitive).steps.sound sound
  have found := @findChild_found state context first caseSensitive
  simp only [walk, findChildOf, if_pos]
  cases hrun : state.findChild context first caseSensitive with
  | mk answer after =>
    rw [hrun] at sound' found
    match answer with
    | .error error => rfl
    | .ok none => rfl
    | .ok (some id) =>
      exact walk_of_ne_root sound' caseSensitive (sound'.named?_ne_root (found rfl)) rest

theorem findPath_eq (sound : state.tree.Sound) (path : Path) (caseSensitive : Bool) :
    state.findPath context path caseSensitive =
      (state.findChild context path.first caseSensitive).read fun id? tree =>
        id?.bind fun id => tree.walk? id path.rest :=
  walk_from_root sound caseSensitive path.first path.rest

theorem findChild_of_no_alias {name : String} (caseSensitive : Bool)
    (plain : context.aliases.namespaceAlias context.settings.user name = none) :
    state.findChild context name caseSensitive =
      (state.note (.resolving name caseSensitive)).findSchema context name := by
  simp only [findChild, plain]

theorem findPath_of_no_alias (sound : state.tree.Sound) {first : String} (rest : List String)
    (caseSensitive : Bool)
    (plain : context.aliases.namespaceAlias context.settings.user first = none) :
    state.findPath context ⟨first, rest⟩ caseSensitive =
      ((state.note (.resolving first caseSensitive)).findSchema context first).read
        fun id? tree => id?.bind fun id => tree.walk? id rest := by
  rw [findPath_eq sound, findChild_of_no_alias caseSensitive plain]

theorem walk_ending (sound : state.tree.Sound) (caseSensitive : Bool) (id : NodeId)
    (names : List String) :
    Ending context state (names.head?.bind context.rootName?)
      (state.walk context caseSensitive id names).error?
      (state.walk context caseSensitive id names).after := by
  by_cases h : id = Tree.root
  · subst h
    cases names with
    | nil => exact .still context state _
    | cons first rest =>
      rw [walk_from_root sound, LookupRun.error?_read]
      exact state.findChild_ending context first caseSensitive
  · rw [walk_of_ne_root sound caseSensitive h]
    exact .still context state _

theorem walk_course (sound : state.tree.Sound) (caseSensitive : Bool) (id : NodeId)
    (names : List String) :
    Course context state (state.walk context caseSensitive id names).after :=
  (walk_ending sound caseSensitive id names).course

theorem findAliasedTable_ending (sound : state.tree.Sound) (name : String) (caseSensitive : Bool) :
    Ending context state (context.tableRootName? name)
      (state.findAliasedTable context name caseSensitive).error?
      (state.findAliasedTable context name caseSensitive).after := by
  unfold findAliasedTable LookupContext.tableRootName?
  cases htarget : context.aliases.tableAlias context.settings.user name with
  | none => exact .still context state _
  | some target =>
    simp only
    cases hparse : Path.parse target with
    | error cause => exact .invalidAlias [] .tables name target cause
    | ok path =>
      have noted : (state.note (.tableAlias name path)).tree.Sound := sound
      simp only [LookupRun.error?_read]
      exact (walk_ending noted caseSensitive Tree.root path.parents).of_note

theorem findAliasedTable_course (sound : state.tree.Sound) (name : String) (caseSensitive : Bool) :
    Course context state (state.findAliasedTable context name caseSensitive).after :=
  (findAliasedTable_ending sound name caseSensitive).course

theorem findChildOf_ending (parent : NodeId) (name : String) (caseSensitive : Bool) :
    Ending context state (if parent = Tree.root then context.rootName? name else none)
      (state.findChildOf context parent name caseSensitive).error?
      (state.findChildOf context parent name caseSensitive).after := by
  unfold findChildOf
  split
  · exact state.findChild_ending context name caseSensitive
  · exact .still context state _

theorem ask_ending (sound : state.tree.Sound) (question : Question) :
    Ending context state (question.rootName? context) (question.ask context state).error?
      (question.ask context state).after := by
  cases question with
  | child name caseSensitive =>
    simp only [Question.ask, LookupRun.error?_read]
    exact state.findChild_ending context name caseSensitive
  | childOf parent name caseSensitive =>
    simp only [Question.ask, LookupRun.error?_read]
    exact findChildOf_ending parent name caseSensitive
  | path target caseSensitive =>
    simp only [Question.ask, LookupRun.error?_read]
    exact walk_ending sound caseSensitive Tree.root target.segments
  | aliasedTable name caseSensitive =>
    simp only [Question.ask, LookupRun.error?_read]
    exact findAliasedTable_ending sound name caseSensitive
  | table name caseSensitive =>
    simp only [Question.ask, findTable, LookupRun.error?_read]
    exact findAliasedTable_ending sound name caseSensitive

theorem ask_course (sound : state.tree.Sound) (question : Question) :
    Course context state (question.ask context state).after :=
  (ask_ending sound question).course

end LookupState

/-- The names along which a question looks for a node from the root. -/
def Question.names? : Question → Option Path
  | .child name _ => some (.single name)
  | .path target _ => some target
  | _ => none

def Tree.along? (tree : Tree) (target? : Option String) (path : Path) : Option NodeId :=
  (tree.named? target? path.first).bind fun id => tree.walk? id path.rest

section Nodes

variable {state : LookupState} {context : LookupContext} {question : Question} {path : Path}
  {id : NodeId}

theorem Tree.Keeps.along? {before after : Tree} (keeps : before.Keeps after) (sound : before.Sound)
    (sound' : after.Sound) {target? : Option String}
    (h : before.along? target? path = some id) : after.along? target? path = some id := by
  obtain ⟨first, hfirst, hrest⟩ := Option.bind_eq_some_iff.mp h
  rw [Tree.along?, keeps.named? sound sound' hfirst]
  exact keeps.walk? sound sound' hrest

/-- A node that is the answer is in the tree afterwards. -/
theorem Question.ask_found (sound : state.tree.Sound) (hnames : question.names? = some path)
    (h : (question.ask context state).answer = .ok (.node (some id))) :
    (question.ask context state).after.tree.along?
      (context.aliases.namespaceAlias context.settings.user path.first) path = some id := by
  cases question with
  | child name caseSensitive =>
    cases Option.some.inj hnames
    obtain ⟨id?, hchild, heq⟩ := LookupRun.read_ok h
    cases Found.node.inj heq
    rw [Tree.along?]
    exact Option.bind_eq_some_iff.mpr ⟨id, LookupState.findChild_found hchild, rfl⟩
  | path target caseSensitive =>
    cases Option.some.inj hnames
    obtain ⟨id?, hpath, heq⟩ := LookupRun.read_ok h
    cases Found.node.inj heq
    rw [LookupState.findPath_eq sound] at hpath
    obtain ⟨first?, hchild, hwalk⟩ := LookupRun.read_ok hpath
    obtain ⟨first, rfl, hrest⟩ := Option.bind_eq_some_iff.mp hwalk
    unfold Question.ask
    rw [LookupRun.read_after, LookupState.findPath_eq sound, LookupRun.read_after, Tree.along?,
      LookupState.findChild_found hchild]
    exact hrest
  | childOf parent name caseSensitive => cases hnames
  | aliasedTable name caseSensitive => cases hnames
  | table name caseSensitive => cases hnames

/-- A node that is in the tree is the answer, and nothing but notes is seen of the lookup. -/
theorem Question.ask_along (sound : state.tree.Sound) (hnames : question.names? = some path)
    (h : state.tree.along? (context.aliases.namespaceAlias context.settings.user path.first) path =
      some id) :
    ∃ notices, question.ask context state = ⟨.ok (.node (some id)), state.noted notices⟩ := by
  obtain ⟨first, hfirst, hrest⟩ := Option.bind_eq_some_iff.mp h
  cases question with
  | child name caseSensitive =>
    cases Option.some.inj hnames
    obtain ⟨notices, hrun⟩ := LookupState.findChild_named caseSensitive hfirst
    cases Option.some.inj hrest
    have hchild : state.findChild context name caseSensitive =
        ⟨.ok (some id), state.noted notices⟩ := hrun
    refine ⟨notices, ?_⟩
    rw [Question.ask, hchild]
    rfl
  | path target caseSensitive =>
    cases Option.some.inj hnames
    obtain ⟨notices, hrun⟩ := LookupState.findChild_named caseSensitive hfirst
    refine ⟨notices, ?_⟩
    rw [Question.ask, LookupState.findPath_eq sound, hrun]
    simp [LookupRun.read, Except.map, hrest]
  | childOf parent name caseSensitive => cases hnames
  | aliasedTable name caseSensitive => cases hnames
  | table name caseSensitive => cases hnames

end Nodes

end FederatedCatalog
