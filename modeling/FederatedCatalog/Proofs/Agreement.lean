import FederatedCatalog.Proofs.SteadyLoad
import FederatedCatalog.Proofs.Twins

namespace FederatedCatalog

/-- Two lookups end with the same error, or both find nothing, or they find twins. -/
def LookupRun.Agrees (first second : LookupRun (Option NodeId)) : Prop :=
  (∃ error, first.answer = .error error ∧ second.answer = .error error) ∨
  first.answer = .ok none ∧ second.answer = .ok none ∨
  ∃ id id', first.answer = .ok (some id) ∧ second.answer = .ok (some id') ∧
    Tree.Twins first.after.tree second.after.tree id id'

theorem LookupRun.view_table (run : LookupRun (Option TableEntry)) :
    (run.read fun found? _ => Found.table found?).view =
      (run.read fun found? _ => found?.map TableEntry.view).answer.map FoundView.table := by
  obtain ⟨answer, after⟩ := run
  cases answer <;> rfl

/-- Whether a question is asked at the root. -/
def Question.AtRoot : Question → Prop
  | .childOf _ _ _ => False
  | _ => True

namespace LookupRun.Agrees

variable {first second : LookupRun (Option NodeId)} {registry : Registry}

theorem walk (agrees : first.Agrees second) (faithful : first.after.tree.Faithful registry)
    (faithful' : second.after.tree.Faithful registry) (names : List String) :
    (first.read fun id? tree => id?.bind fun id => tree.walk? id names).Agrees
      (second.read fun id? tree => id?.bind fun id => tree.walk? id names) := by
  rcases agrees with ⟨error, h, h'⟩ | ⟨h, h'⟩ | ⟨id, id', h, h', twins⟩
  · refine Or.inl ⟨error, ?_, ?_⟩
    · simp only [LookupRun.read, h, Except.map]
    · simp only [LookupRun.read, h', Except.map]
  · refine Or.inr (Or.inl ⟨?_, ?_⟩)
    · simp only [LookupRun.read, h, Except.map, Option.bind_none]
    · simp only [LookupRun.read, h', Except.map, Option.bind_none]
  · rcases twins.walk? faithful faithful' names with
      ⟨hwalk, hwalk'⟩ | ⟨found, found', hwalk, hwalk', below⟩
    · refine Or.inr (Or.inl ⟨?_, ?_⟩)
      · simp only [LookupRun.read, h, Except.map, Option.bind_some, hwalk]
      · simp only [LookupRun.read, h', Except.map, Option.bind_some, hwalk']
    · refine Or.inr (Or.inr ⟨found, found', ?_, ?_, below⟩)
      · simp only [LookupRun.read, h, Except.map, Option.bind_some, hwalk]
      · simp only [LookupRun.read, h', Except.map, Option.bind_some, hwalk']

theorem view_eq (agrees : first.Agrees second) (faithful : first.after.tree.Faithful registry)
    (faithful' : second.after.tree.Faithful registry) :
    (first.read fun id? _ => Found.node id?).view =
      (second.read fun id? _ => Found.node id?).view := by
  rcases agrees with ⟨error, h, h'⟩ | ⟨h, h'⟩ | ⟨id, id', h, h', twins⟩
  · simp only [LookupRun.view, LookupRun.read, h, h', Except.map]
  · simp only [LookupRun.view, LookupRun.read, h, h', Except.map, Found.view, Option.map_none]
  · simp only [LookupRun.view, LookupRun.read, h, h', Except.map, Found.view, Option.map_some,
      twins.view?_eq faithful faithful']

theorem table_view_eq (agrees : first.Agrees second) (faithful : first.after.tree.Faithful registry)
    (faithful' : second.after.tree.Faithful registry) (name : String) (caseSensitive : Bool) :
    (first.read fun id? tree => (id?.bind fun id => tree.table? id name caseSensitive).map
      TableEntry.view).answer =
    (second.read fun id? tree => (id?.bind fun id => tree.table? id name caseSensitive).map
      TableEntry.view).answer := by
  rcases agrees with ⟨error, h, h'⟩ | ⟨h, h'⟩ | ⟨id, id', h, h', twins⟩
  · simp only [LookupRun.read, h, h', Except.map]
  · simp only [LookupRun.read, h, h', Except.map, Option.bind_none]
  · simp only [LookupRun.read, h, h', Except.map, Option.bind_some, Tree.table?_view,
      twins.tableViews_eq faithful faithful']

end LookupRun.Agrees

theorem Tree.Faithful.table?_root {tree : Tree} {registry : Registry}
    (faithful : tree.Faithful registry) (name : String) (caseSensitive : Bool) :
    tree.table? root name caseSensitive = none := by
  have hempty : tree.tables root = [] := by
    apply NameMap.ext_of_sorted (faithful.sound.sorted_tables root) List.Pairwise.nil
    intro other
    have hroot : tree.locate? [] = some root := rfl
    rw [get?_tables hroot faithful.sound.follow_root, faithful.tableless]
    rfl
  rw [table?_eq_match?, hempty]
  cases caseSensitive <;> rfl

namespace LookupState

variable {state other : LookupState} {context context' : LookupContext} {connector : Connector}

theorem loaded_faithful (context : LookupContext) (faithful : state.tree.Faithful state.registry)
    {outer : String} (lowered : Text.lower outer = outer)
    (serves : state.registry.enabled? outer = some connector) :
    (state.loaded context outer connector).Faithful state.registry := by
  cases free : state.tree.child? Tree.root outer with
  | some id =>
    rw [loaded_of_some free]
    exact faithful
  | none =>
    have step : Step context state (state.register context outer connector).after :=
      .register outer lowered free serves
    have steady := (faithful.steady.enabled? serves).2
    rw [loaded_of_none free, ← (steady.register state context outer).2.2]
    exact (step.faithful faithful).2

theorem compounds_alike {first second : Tree} {registry : Registry}
    (faithful : first.Faithful registry) (faithful' : second.Faithful registry) {outer : String}
    (dotless : Undotted outer) (inner : String) {parent parent' : NodeId}
    (hparent : first.locate? [outer] = some parent)
    (hparent' : second.locate? [outer] = some parent') :
    first.uncompoundable? parent = second.uncompoundable? parent' ∧
      (first.locate? [outer, inner] = none ↔ second.locate? [outer, inner] = none) := by
  have there : first.content.kind [outer] ≠ none := by
    rw [Ne, faithful.sound.content_kind_eq_none, hparent]
    exact Option.some_ne_none parent
  have there' : second.content.kind [outer] ≠ none := by
    rw [Ne, faithful'.sound.content_kind_eq_none, hparent']
    exact Option.some_ne_none parent'
  have alike := faithful.alikeAt faithful' dotless there there'
  constructor
  · exact Tree.uncompoundable?_congr faithful.sound faithful'.sound hparent
      (faithful.sound.follow_of_undotted hparent dotless) hparent'
      (faithful'.sound.follow_of_undotted hparent' dotless) fun key => (alike [key]).1
  · rw [← faithful.sound.content_kind_eq_none, ← faithful'.sound.content_kind_eq_none,
      (alike [inner]).1]

theorem CompoundEnd.agrees {first second : Tree} {registry : Registry} {outer inner : String}
    {run run' : LookupRun (Option NodeId)} (ending : CompoundEnd first outer inner run)
    (ending' : CompoundEnd second outer inner run') (faithful : first.Faithful registry)
    (faithful' : second.Faithful registry) (dotless : Undotted outer) : run.Agrees run' := by
  have same := @compounds_alike _ _ _ faithful faithful' _ dotless inner
  cases ending with
  | refused hparent hentry answer =>
    cases ending' with
    | refused hparent' hentry' answer' =>
      rw [(same hparent hparent').1] at hentry
      cases Option.some.inj (hentry.symm.trans hentry')
      exact Or.inl ⟨_, answer, answer'⟩
    | absent hparent' hnone' =>
      rw [(same hparent hparent').1, hnone'] at hentry
      cases hentry
    | found hparent' hnone' =>
      rw [(same hparent hparent').1, hnone'] at hentry
      cases hentry
  | absent hparent hnone hinner answer =>
    cases ending' with
    | refused hparent' hentry' =>
      rw [(same hparent hparent').1, hentry'] at hnone
      cases hnone
    | absent _ _ _ answer' => exact Or.inr (Or.inl ⟨answer, answer'⟩)
    | found hparent' _ hinner' =>
      rw [(same hparent hparent').2, hinner'] at hinner
      cases hinner
  | found hparent hnone hinner answer located =>
    cases ending' with
    | refused hparent' hentry' =>
      rw [(same hparent hparent').1, hentry'] at hnone
      cases hnone
    | absent hparent' _ hinner' =>
      rw [← (same hparent hparent').2, hinner] at hinner'
      cases hinner'
    | found _ _ _ answer' located' =>
      exact Or.inr (Or.inr ⟨_, _, answer, answer', _, by simp, located, located'⟩)

/-- A faithful tree has no name below its root that is neither an enabled connector's nor made of
such a name and another one. -/
theorem locate?_unserved (faithful : state.tree.Faithful state.registry) {key : String}
    (unserved : state.registry.enabled? key = none)
    (parts : ∀ outer inner, Path.dotted key = [outer, inner] →
      state.registry.enabled? outer = none) : state.tree.locate? [key] = none := by
  have sound := faithful.sound
  rw [← sound.content_kind_eq_none]
  apply Classical.byContradiction
  intro there
  by_cases hdot : Undotted key
  · obtain ⟨connector, serves⟩ := faithful.enabled hdot there
    rw [unserved] at serves
    cases serves
  · obtain ⟨kind, hkind⟩ := Option.ne_none_iff_exists'.mp there
    obtain ⟨target, rfl⟩ := faithful.tidy.dotted hkind hdot
    obtain ⟨outer, inner, _, hpath, ho, _, hinner⟩ := sound.compound_path hkind
    have habove : state.tree.content.kind ([outer] ++ [inner]) = some _ := hinner
    obtain ⟨connector, serves⟩ := faithful.enabled ho (sound.kind_above habove)
    have hi := faithful.undotted_inner sound faithful.constant ho hinner
    rw [List.singleton_inj.mp hpath] at parts
    rw [parts outer inner (Tree.dotted_compoundName ho hi)] at serves
    cases serves

theorem findSchema_agrees (faithful : state.tree.Faithful state.registry)
    (faithful' : other.tree.Faithful other.registry) (same : other.registry = state.registry)
    (name : String) : (state.findSchema context name).Agrees (other.findSchema context' name) := by
  cases serves : state.registry.enabled? (Text.lower name) with
  | some connector =>
    obtain ⟨hname, constant⟩ := faithful.constant.enabled? serves
    rw [Text.lower_lower] at hname
    obtain ⟨id, hanswer, _, htree, hid⟩ :=
      findSchema_served context constant.toSteady faithful.sound serves hname
    obtain ⟨id', hanswer', _, htree', hid'⟩ :=
      findSchema_served context' constant.toSteady faithful'.sound (same ▸ serves) hname
    refine Or.inr (Or.inr ⟨id, id', hanswer, hanswer', [Text.lower name], by simp, ?_, ?_⟩)
    · rw [htree]
      exact hid
    · rw [htree']
      exact hid'
  | none =>
    by_cases hparts : ∃ outer inner connector, Path.dotted (Text.lower name) = [outer, inner] ∧
      state.registry.enabled? outer = some connector
    · obtain ⟨outer, inner, connector, hdotted, servesOuter⟩ := hparts
      obtain ⟨hname, ho, hi⟩ := Tree.eq_compoundName_of_dotted hdotted
      have lowered : Text.lower outer = outer := (Tree.lower_parts hname).1
      have servesOther : other.registry.enabled? outer = some connector := same ▸ servesOuter
      have loaded := loaded_faithful context faithful lowered servesOuter
      have loaded' := loaded_faithful context' faithful' lowered servesOther
      rw [same] at loaded'
      have ending := findSchema_compoundEnd faithful.sound faithful.tidy hname ho faithful.steady
        servesOuter context hi
      have ending' := findSchema_compoundEnd faithful'.sound faithful'.tidy hname ho
        faithful'.steady servesOther context' hi
      exact ending.agrees ending' loaded loaded' ho
    · have parts : ∀ outer inner, Path.dotted (Text.lower name) = [outer, inner] →
          state.registry.enabled? outer = none := by
        intro outer inner hdotted
        cases h : state.registry.enabled? outer with
        | none => rfl
        | some connector => exact absurd ⟨outer, inner, connector, hdotted, h⟩ hparts
      have parts' := parts
      have serves' := serves
      rw [← same] at parts' serves'
      rw [findSchema_unserved faithful.sound (locate?_unserved faithful serves parts) serves parts,
        findSchema_unserved faithful'.sound (locate?_unserved faithful' serves' parts') serves'
          parts']
      exact Or.inr (Or.inl ⟨rfl, rfl⟩)

theorem findChild_agrees (faithful : state.tree.Faithful state.registry)
    (faithful' : other.tree.Faithful other.registry) (same : other.registry = state.registry)
    (aliases : context'.aliases = context.aliases)
    (user : context'.settings.user = context.settings.user) (name : String)
    (caseSensitive : Bool) : (state.findChild context name caseSensitive).Agrees
      (other.findChild context' name caseSensitive) := by
  have noted : ∀ notices, (state.noted notices).tree.Faithful (state.noted notices).registry := by
    intro notices
    rw [noted_tree, noted_registry]
    exact faithful
  have noted' : ∀ notices, (other.noted notices).tree.Faithful (other.noted notices).registry := by
    intro notices
    rw [noted_tree, noted_registry]
    exact faithful'
  have sameNoted : ∀ notices, (other.noted notices).registry = (state.noted notices).registry := by
    intro notices
    rw [noted_registry, noted_registry]
    exact same
  unfold findChild
  rw [aliases, user]
  cases context.aliases.namespaceAlias context.settings.user name with
  | none =>
    exact findSchema_agrees (noted [.resolving name caseSensitive])
      (noted' [.resolving name caseSensitive]) (sameNoted [.resolving name caseSensitive]) name
  | some target =>
    cases hparse : Path.parse target with
    | error cause =>
      refine Or.inl ⟨.invalidAlias .namespaces name target cause, ?_, ?_⟩ <;> simp only [hparse]
    | ok path =>
      have before := noted [.resolving name caseSensitive, .schemaAlias name path]
      have before' := noted' [.resolving name caseSensitive, .schemaAlias name path]
      have agrees := @findSchema_agrees _ _ context context' before before' (sameNoted _) path.first
      have after := ((findSchema_course _ context path.first).steps.faithful before).2
      have after' := ((findSchema_course _ context' path.first).steps.faithful before').2
      rw [sameNoted] at after'
      simp only [hparse]
      exact agrees.walk after after' path.rest

theorem walk_faithful (context : LookupContext) (faithful : state.tree.Faithful state.registry)
    (names : List String) (caseSensitive : Bool) :
    (state.walk context caseSensitive Tree.root names).after.tree.Faithful state.registry :=
  ((walk_course faithful.sound caseSensitive Tree.root names).steps.faithful faithful).2

theorem findTable_answer (context : LookupContext) (faithful : state.tree.Faithful state.registry)
    (name : String) (caseSensitive : Bool) :
    ((state.findTable context name caseSensitive).read fun found? _ =>
      found?.map TableEntry.view).answer =
    ((state.findAliasedTable context name caseSensitive).read fun found? _ =>
      found?.map TableEntry.view).answer.map (Option.map fun view => { view with name }) := by
  have course : Course context state (state.findAliasedTable context name caseSensitive).after :=
    findAliasedTable_course faithful.sound name caseSensitive
  have hroot := (course.steps.faithful faithful).2.table?_root name true
  unfold findTable
  rw [LookupRun.read_read]
  cases hrun : state.findAliasedTable context name caseSensitive with
  | mk answer after =>
    rw [hrun] at hroot
    match answer with
    | .error error => rfl
    | .ok none => simp only [LookupRun.read, Except.map, hroot, Option.map_none]
    | .ok (some entry) => rfl

section Paths

variable (faithful : state.tree.Faithful state.registry)
  (faithful' : other.tree.Faithful other.registry) (same : other.registry = state.registry)
  (aliases : context'.aliases = context.aliases)
  (user : context'.settings.user = context.settings.user)

include faithful faithful' same aliases user

theorem walk_agrees (first : String) (rest : List String) (caseSensitive : Bool) :
    (state.walk context caseSensitive Tree.root (first :: rest)).Agrees
      (other.walk context' caseSensitive Tree.root (first :: rest)) := by
  rw [walk_from_root faithful.sound, walk_from_root faithful'.sound]
  have after := ((state.findChild_course context first caseSensitive).steps.faithful faithful).2
  have after' := ((other.findChild_course context' first caseSensitive).steps.faithful faithful').2
  rw [same] at after'
  exact (findChild_agrees faithful faithful' same aliases user first caseSensitive).walk after
    after' rest

theorem findAliasedTable_view (name : String) (caseSensitive : Bool) :
    ((state.findAliasedTable context name caseSensitive).read fun found? _ =>
      found?.map TableEntry.view).answer =
    ((other.findAliasedTable context' name caseSensitive).read fun found? _ =>
      found?.map TableEntry.view).answer := by
  unfold findAliasedTable
  rw [aliases, user]
  cases context.aliases.tableAlias context.settings.user name with
  | none => rfl
  | some target =>
    cases hparse : Path.parse target with
    | error cause =>
      simp only [hparse]
      rfl
    | ok path =>
      simp only [hparse]
      have noted : (state.note (.tableAlias name path)).tree.Faithful
          (state.note (.tableAlias name path)).registry := faithful
      have noted' : (other.note (.tableAlias name path)).tree.Faithful
          (other.note (.tableAlias name path)).registry := faithful'
      cases path.parents with
      | nil =>
        have hroot := noted.table?_root path.last caseSensitive
        have hroot' := noted'.table?_root path.last caseSensitive
        simp only [walk, LookupRun.read, Except.map, Option.bind_some, hroot, hroot']
      | cons first rest =>
        have agrees := walk_agrees noted noted' same aliases user first rest caseSensitive
        have after := walk_faithful context noted (first :: rest) caseSensitive
        have after' := walk_faithful context' noted' (first :: rest) caseSensitive
        have registry : (other.note (.tableAlias name path)).registry =
            (state.note (.tableAlias name path)).registry := same
        rw [registry] at after'
        simp only [LookupRun.read_read]
        exact agrees.table_view_eq after after' path.last caseSensitive

theorem findTable_view (name : String) (caseSensitive : Bool) :
    ((state.findTable context name caseSensitive).read fun found? _ =>
      found?.map TableEntry.view).answer =
    ((other.findTable context' name caseSensitive).read fun found? _ =>
      found?.map TableEntry.view).answer := by
  rw [findTable_answer context faithful, findTable_answer context' faithful',
    findAliasedTable_view faithful faithful' same aliases user]

/-- A question asked at the root is answered with what looks the same. -/
theorem ask_view_eq {question : Question} (atRoot : question.AtRoot) :
    (question.ask context state).view = (question.ask context' other).view := by
  cases question with
  | child name caseSensitive =>
    have after := ((state.findChild_course context name caseSensitive).steps.faithful faithful).2
    have after' := ((other.findChild_course context' name caseSensitive).steps.faithful faithful').2
    rw [same] at after'
    exact (findChild_agrees faithful faithful' same aliases user name caseSensitive).view_eq after
      after'
  | childOf parent name caseSensitive => exact absurd atRoot id
  | path target caseSensitive =>
    have after := walk_faithful context faithful target.segments caseSensitive
    have after' := walk_faithful context' faithful' target.segments caseSensitive
    rw [same] at after'
    exact (walk_agrees faithful faithful' same aliases user target.first target.rest
      caseSensitive).view_eq after after'
  | aliasedTable name caseSensitive =>
    have tables := findAliasedTable_view faithful faithful' same aliases user name caseSensitive
    rw [Question.ask, Question.ask, LookupRun.view_table, LookupRun.view_table, tables]
  | table name caseSensitive =>
    have tables := findTable_view faithful faithful' same aliases user name caseSensitive
    rw [Question.ask, Question.ask, LookupRun.view_table, LookupRun.view_table, tables]

end Paths

end LookupState

end FederatedCatalog
