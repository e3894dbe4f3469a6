import FederatedCatalog.Proofs.LookupStep

namespace FederatedCatalog

/-- The error that a run ends with. -/
def LookupRun.error? {α : Type} (run : LookupRun α) : Option LookupError :=
  match run.answer with
  | .ok _ => none
  | .error error => some error

theorem LookupRun.error?_eq_some {α : Type} {run : LookupRun α} {error : LookupError} :
    run.error? = some error ↔ run.answer = .error error := by
  unfold error?
  cases run.answer <;> simp

@[simp] theorem LookupRun.error?_read {α β : Type} (run : LookupRun α) (value : α → Tree → β) :
    (run.read value).error? = run.error? := by
  obtain ⟨answer, after⟩ := run
  cases answer <;> rfl

/-- The root's child that is looked up for a name below the root, in lower case. -/
def LookupContext.rootName? (context : LookupContext) (name : String) : Option String :=
  match context.aliases.namespaceAlias context.settings.user name with
  | none => some (Text.lower name)
  | some target =>
    match Path.parse target with
    | .error _ => none
    | .ok path => some (Text.lower path.first)

namespace LookupState

/-- A lookup that has what serves a name: it has made notes only, or the connector of that name has
registered. `asked?` is the child of the root that is looked up. -/
inductive Prepared (context : LookupContext) (state : LookupState) (asked? : Option String)
    (name : String) : LookupState → Prop
  | noted (notices : List Notice) : Prepared context state asked? name (state.noted notices)
  | registered {schema : String} {connector : Connector} (notices : List Notice)
      (asked : asked? = some schema) (lowered : Text.lower name = name)
      (free : state.tree.child? Tree.root name = none)
      (serves : state.registry.enabled? name = some connector)
      (succeeded : ((state.noted notices).register context schema connector).answer = .ok ()) :
      Prepared context state asked? name
        ((state.noted notices).register context schema connector).after

/-- Where a lookup ends, with an error or without one. -/
inductive Ending (context : LookupContext) (state : LookupState) (asked? : Option String) :
    Option LookupError → LookupState → Prop
  | done {name : String} {mid after : LookupState}
      (prepared : Prepared context state asked? name mid) (quiet : QuietSteps mid after) :
      Ending context state asked? none after
  | failed {schema name : String} {connector : Connector} {failure : LoadFailure}
      (notices : List Notice) (asked : asked? = some schema) (lowered : Text.lower name = name)
      (free : state.tree.child? Tree.root name = none)
      (serves : state.registry.enabled? name = some connector)
      (failed : ((state.noted notices).register context schema connector).answer =
        .error (.load failure)) :
      Ending context state asked? (some (.load failure))
        ((state.noted notices).register context schema connector).after
  | unexpected {outer inner : String} {parent : NodeId} {kind : NodeKind} {mid : LookupState}
      (prepared : Prepared context state asked? outer mid) (dotless : Undotted outer)
      (lowered : Text.lower outer = outer)
      (serves : ∃ connector, state.registry.enabled? outer = some connector)
      (found : mid.tree.child? Tree.root outer = some parent)
      (blamed : mid.tree.uncompoundable? parent = some (inner, kind)) :
      Ending context state asked? (some (.unexpectedSchema (Tree.compoundName outer inner)
        kind.typeName (mid.tree.fullName parent))) mid
  | invalidAlias (notices : List Notice) (kind : AliasKind) (name target : String)
      (cause : PathError) :
      Ending context state asked? (some (.invalidAlias kind name target cause))
        (state.noted notices)

theorem Prepared.course {context : LookupContext} {state mid : LookupState}
    {asked? : Option String} {name : String} (prepared : Prepared context state asked? name mid) :
    Course context state mid := by
  cases prepared with
  | noted notices => exact .quiet (state.noted_quiet notices)
  | registered notices _ lowered free serves _ => exact .loading notices _ lowered free serves .refl

namespace Ending

variable {context : LookupContext} {state after : LookupState} {asked? : Option String}
  {error? : Option LookupError}

theorem course (ending : Ending context state asked? error? after) :
    Course context state after := by
  cases ending with
  | done prepared quiet => exact prepared.course.trans quiet
  | failed notices _ lowered free serves _ => exact .loading notices _ lowered free serves .refl
  | unexpected prepared => exact prepared.course
  | invalidAlias notices => exact .quiet (state.noted_quiet notices)

theorem still (context : LookupContext) (state : LookupState) (asked? : Option String) :
    Ending context state asked? none state := by
  have prepared : Prepared context state asked? "" state := .noted []
  exact .done prepared .refl

theorem of_note {notice : Notice}
    (ending : Ending context (state.note notice) asked? error? after) :
    Ending context state asked? error? after := by
  have prepared : ∀ {name : String} {mid : LookupState},
      Prepared context (state.note notice) asked? name mid →
        Prepared context state asked? name mid := by
    intro name mid prepared
    cases prepared with
    | noted notices => exact .noted (notice :: notices)
    | registered notices asked lowered free serves succeeded =>
      exact .registered (notice :: notices) asked lowered free serves succeeded
  cases ending with
  | done before quiet => exact .done (prepared before) quiet
  | failed notices asked lowered free serves failed =>
    exact .failed (notice :: notices) asked lowered free serves failed
  | unexpected before dotless lowered serves found blamed =>
    exact .unexpected (prepared before) dotless lowered serves found blamed
  | invalidAlias notices kind name target cause =>
    exact .invalidAlias (notice :: notices) kind name target cause

end Ending

theorem register_ending {state : LookupState} (context : LookupContext) (schema : String)
    {name : String} {connector : Connector} (lowered : Text.lower name = name)
    (free : state.tree.child? Tree.root name = none)
    (serves : state.registry.enabled? name = some connector) :
    Ending context state (some schema) (state.register context schema connector).error?
      (state.register context schema connector).after := by
  obtain ⟨_, _, _, _, ⟨_, succeeded, _⟩ | ⟨_, ⟨failure, failed⟩, _⟩⟩ :=
    state.register_cases context schema connector
  · rw [LookupRun.error?, succeeded]
    exact .done (.registered [] rfl lowered free serves succeeded) .refl
  · rw [LookupRun.error?, failed]
    exact .failed [] rfl lowered free serves failed

theorem firstLevel_cases (state : LookupState) (context : LookupContext) (schema : String)
    {outer : String} {connector : Connector} (lowered : Text.lower outer = outer)
    (serves : state.registry.enabled? outer = some connector) :
    (∃ id after, state.firstLevel context schema outer connector = ⟨.ok (some id), after⟩ ∧
      Prepared context state (some schema) outer after ∧
      after.tree.child? Tree.root outer = some id) ∨
    (∃ after, state.firstLevel context schema outer connector = ⟨.ok none, after⟩ ∧
      after.tree.child? Tree.root outer = none ∧ Ending context state (some schema) none after) ∨
    ∃ failure after,
      state.firstLevel context schema outer connector = ⟨.error (.load failure), after⟩ ∧
      Ending context state (some schema) (some (.load failure)) after := by
  unfold firstLevel
  cases free : state.tree.child? Tree.root outer with
  | some id => exact Or.inl ⟨id, state, rfl, .noted [], free⟩
  | none =>
    have ending := register_ending context schema lowered free serves
    simp only
    obtain ⟨_, _, _, _, ⟨_, succeeded, _⟩ | ⟨_, ⟨failure, failed⟩, _⟩⟩ :=
      state.register_cases context schema connector
    · have prepared : Prepared context state (some schema) outer
          (state.register context schema connector).after :=
        .registered [] rfl lowered free serves succeeded
      generalize state.register context schema connector = run at succeeded prepared
      obtain ⟨answer, after⟩ := run
      cases succeeded
      simp only [LookupRun.andThen_ok]
      cases hchild : after.tree.child? Tree.root outer with
      | none => exact Or.inr (Or.inl ⟨_, rfl, hchild, .done prepared (.single (.note _ _))⟩)
      | some id => exact Or.inl ⟨id, after, rfl, prepared, hchild⟩
    · generalize state.register context schema connector = run at failed ending
      obtain ⟨answer, after⟩ := run
      cases failed
      exact Or.inr (Or.inr ⟨failure, after, rfl, ending⟩)

theorem flatten_ending {context : LookupContext} {state mid : LookupState}
    {asked? : Option String} {outer : String} {parent : NodeId} (dotless : Undotted outer)
    (lowered : Text.lower outer = outer)
    (serves : ∃ connector, state.registry.enabled? outer = some connector)
    (prepared : Prepared context state asked? outer mid)
    (found : mid.tree.child? Tree.root outer = some parent) :
    Ending context state asked? (mid.flatten outer parent).error?
      (mid.flatten outer parent).after := by
  unfold flatten
  cases h : mid.tree.uncompoundable? parent with
  | some entry => exact .unexpected prepared dotless lowered serves found h
  | none => exact .done prepared (.single (.flatten dotless lowered found h))

theorem load_ending (state : LookupState) (context : LookupContext) {name : String}
    (lowered : Text.lower name = name) (free : state.tree.child? Tree.root name = none) :
    Ending context state (some name) (state.load context name).error?
      (state.load context name).after := by
  unfold load
  cases serves : state.registry.enabled? name with
  | some connector => exact register_ending context name lowered free serves
  | none =>
    simp only
    split
    next outer inner hdotted =>
      obtain ⟨hname, dotless, _⟩ := Tree.eq_compoundName_of_dotted hdotted
      have loweredOuter : Text.lower outer = outer := (Tree.lower_parts (lowered.trans hname)).1
      cases servesOuter : state.registry.enabled? outer with
      | none => exact .still context state _
      | some connector =>
        simp only
        rcases state.firstLevel_cases context name loweredOuter servesOuter with
          ⟨parent, mid, hrun, prepared, found⟩ | ⟨mid, hrun, _, ending⟩ | ⟨_, mid, hrun, ending⟩
        · rw [hrun]
          exact flatten_ending dotless loweredOuter ⟨connector, servesOuter⟩ prepared found
        · rw [hrun]
          exact ending
        · rw [hrun]
          exact ending
    next => exact .still context state _

theorem findSchema_ending (state : LookupState) (context : LookupContext) (name : String) :
    Ending context state (some (Text.lower name)) (state.findSchema context name).error?
      (state.findSchema context name).after := by
  unfold findSchema
  cases h : state.tree.child? Tree.root (Text.lower name) with
  | some id =>
    simp only [h]
    exact (Ending.still context _ _).of_note
  | none =>
    simp only [h, LookupRun.error?_read]
    exact state.load_ending context (Text.lower_lower name) h

theorem findChild_ending (state : LookupState) (context : LookupContext) (name : String)
    (caseSensitive : Bool) :
    Ending context state (context.rootName? name)
      (state.findChild context name caseSensitive).error?
      (state.findChild context name caseSensitive).after := by
  unfold findChild LookupContext.rootName?
  cases htarget : context.aliases.namespaceAlias context.settings.user name with
  | none => exact (findSchema_ending _ context name).of_note
  | some target =>
    simp only
    cases hparse : Path.parse target with
    | error cause =>
      exact .invalidAlias [.resolving name caseSensitive] .namespaces name target cause
    | ok path =>
      simp only [LookupRun.error?_read]
      exact (findSchema_ending _ context path.first).of_note.of_note

theorem findSchema_course (state : LookupState) (context : LookupContext) (name : String) :
    Course context state (state.findSchema context name).after :=
  (state.findSchema_ending context name).course

theorem findChild_course (state : LookupState) (context : LookupContext) (name : String)
    (caseSensitive : Bool) :
    Course context state (state.findChild context name caseSensitive).after :=
  (state.findChild_ending context name caseSensitive).course

end LookupState

end FederatedCatalog
