import FederatedCatalog.Proofs.Constant
import FederatedCatalog.Proofs.Tidy

namespace FederatedCatalog

/-- What the enabled connectors of a registry add in their first calls. -/
def Registry.world (registry : Registry) : Content where
  kind := fun path => path.head?.bind fun key =>
    (registry.enabled? key).bind fun connector => (connector.added 0).kind path
  table := fun path name => path.head?.bind fun key =>
    (registry.enabled? key).bind fun connector => (connector.added 0).table path name

theorem Registry.added_alikeAt_world {registry : Registry} {key : String} {connector : Connector}
    (constant : connector.Constant) (serves : registry.enabled? key = some connector) (call : Nat)
    (rest : List String) : (connector.added call).AlikeAt registry.world (key :: rest) := by
  have alike := constant.alike call 0 (key :: rest)
  constructor
  · rw [alike.1]
    simp [world, serves]
  · intro name
    rw [alike.2]
    simp [world, serves]

namespace Tree

/-- Of the schemas that the connectors of a registry add the tree has some, each with all that is
inside, and compound nodes for some. -/
structure Mirrors (tree : Tree) (registry : Registry) : Prop where
  tidy : tree.Tidy
  tableless : ∀ name, tree.content.table [] name = none
  hollow : ∀ {key inner}, ¬Undotted key → tree.content.kind [key, inner] = none
  served : ∀ {key}, Undotted key → tree.content.kind [key] ≠ none → ∀ rest,
    tree.content.AlikeAt registry.world (key :: rest)

variable {registry : Registry}

theorem mirrors_bare (registry : Registry) : bare.Mirrors registry := by
  refine ⟨tidy_bare, ?_, ?_, ?_⟩
  · intro name
    rw [content_bare]
    rfl
  · intro key inner _
    rw [content_bare]
    simp [Content.ofLists]
  · intro key _ h
    rw [content_bare] at h
    simp [Content.ofLists] at h

namespace Mirrors

theorem register {before after : Tree} (mirrors : before.Mirrors registry) (sound : before.Sound)
    {connector : Connector} (constant : connector.Constant) {call : Nat}
    (gains : before.Gains after (connector.added call))
    (serves : registry.enabled? (Text.lower connector.name) = some connector)
    (free : before.content.kind [Text.lower connector.name] = none) : after.Mirrors registry := by
  have dotless := undotted_lower.mpr constant.dotless
  have own := constant.addsOwn call
  have elsewhere : ∀ {path}, (∀ rest, path ≠ Text.lower connector.name :: rest) →
      after.content.kind path = before.content.kind path ∧
        ∀ name, after.content.table path name = before.content.table path name :=
    own.content_elsewhere gains
  have inside : ∀ rest, after.content.AlikeAt (connector.added call)
      (Text.lower connector.name :: rest) := by
    intro rest
    obtain ⟨hkind, htable⟩ := sound.content_below_free free rest
    rw [gains.content]
    simp [Content.AlikeAt, Content.overlay, hkind, htable]
  refine ⟨mirrors.tidy.register sound gains dotless free own.place_of_added_kind, ?_, ?_, ?_⟩
  · intro name
    rw [(elsewhere (by simp)).2]
    exact mirrors.tableless name
  · intro key inner hdot
    have hne : ∀ rest, [key, inner] ≠ Text.lower connector.name :: rest := by
      intro rest heq
      obtain ⟨heq, _⟩ := List.cons.inj heq
      exact hdot (heq ▸ dotless)
    rw [(elsewhere hne).1]
    exact mirrors.hollow hdot
  · intro key hkey hthere rest
    by_cases heq : key = Text.lower connector.name
    · subst heq
      exact (inside rest).trans (Registry.added_alikeAt_world constant serves call rest)
    · have hne : ∀ first second, key :: first ≠ Text.lower connector.name :: second :=
        fun first second h => heq (List.cons.inj h).1
      rw [(elsewhere (hne [])).1] at hthere
      have alike := mirrors.served hkey hthere rest
      obtain ⟨hkind, htable⟩ := elsewhere (hne rest)
      refine ⟨hkind.trans alike.1, ?_⟩
      intro name
      rw [htable]
      exact alike.2 name

variable {tree : Tree}

theorem addCompounds (mirrors : tree.Mirrors registry) (sound : tree.Sound) {outer : String}
    {parent : NodeId} (hparent : tree.locate? [outer] = some parent) (dotless : Undotted outer)
    (hall : tree.uncompoundable? parent = none) :
    (tree.addCompounds outer parent).Mirrors registry := by
  have hkind : ∀ {path}, (∀ inner, path ≠ [compoundName outer inner]) →
      (tree.addCompounds outer parent).content.kind path = tree.content.kind path :=
    addCompounds_kind_of_ne sound hparent dotless hall
  have htable := addCompounds_table sound hparent dotless hall
  refine ⟨mirrors.tidy.addCompounds sound hparent dotless hall, ?_, ?_, ?_⟩
  · intro name
    rw [htable]
    exact mirrors.tableless name
  · intro key inner hdot
    rw [hkind (by simp)]
    exact mirrors.hollow hdot
  · intro key hkey hthere rest
    have hne : ∀ inner, key :: rest ≠ [compoundName outer inner] := by
      intro inner heq
      obtain ⟨rfl, _⟩ := List.cons.inj heq
      exact not_undotted_compoundName outer inner hkey
    rw [hkind (ne_compoundName_of_undotted hkey outer)] at hthere
    have alike := mirrors.served hkey hthere rest
    refine ⟨(hkind hne).trans alike.1, ?_⟩
    intro name
    rw [htable]
    exact alike.2 name

theorem enabled (mirrors : tree.Mirrors registry) {key : String} (dotless : Undotted key)
    (h : tree.content.kind [key] ≠ none) : ∃ connector, registry.enabled? key = some connector := by
  have alike := mirrors.served dotless h []
  rw [alike.1] at h
  cases serves : registry.enabled? key with
  | some connector => exact ⟨connector, rfl⟩
  | none => simp [Registry.world, serves] at h

theorem undotted_inner (mirrors : tree.Mirrors registry) (sound : tree.Sound)
    (constant : registry.Holds Connector.Constant) {outer inner : String} {kind : NodeKind}
    (dotless : Undotted outer) (h : tree.content.kind [outer, inner] = some kind) :
    Undotted inner := by
  have below : tree.content.kind ([outer] ++ [inner]) = some kind := h
  have above := sound.kind_above below
  obtain ⟨connector, serves⟩ := mirrors.enabled dotless above
  obtain ⟨_, hconstant⟩ := constant.enabled? serves
  rw [(mirrors.served dotless above [inner]).1] at h
  have hadded : (connector.added 0).kind [outer, inner] = some kind := by
    simpa [Registry.world, serves] using h
  obtain ⟨_, heq⟩ := (hconstant.addsOwn 0).place_of_added_kind hadded
  rw [(List.cons.inj heq).1] at hadded
  exact hconstant.shallow 0 hadded

end Mirrors

end Tree

/-- The registry holds constant connectors, and the tree mirrors it. -/
structure Tree.Faithful (tree : Tree) (registry : Registry) : Prop extends
    Mirrors tree registry where
  sound : tree.Sound
  constant : registry.Holds Connector.Constant

theorem Tree.Faithful.steady {tree : Tree} {registry : Registry}
    (faithful : tree.Faithful registry) : registry.Holds Connector.Steady :=
  faithful.constant.mono fun _ constant => constant.toSteady

namespace LookupState

variable {context : LookupContext} {state after : LookupState}

theorem Step.registry_eq (step : Step context state after)
    (steady : state.registry.Holds Connector.Steady) : after.registry = state.registry := by
  cases step with
  | quiet quiet => cases quiet <;> rfl
  | register schema lowered free serves =>
    exact ((steady.enabled? serves).2.register state context schema).2.1

theorem Steps.registry_eq (steps : Steps context state after)
    (steady : state.registry.Holds Connector.Steady) : after.registry = state.registry := by
  induction steps with
  | refl => rfl
  | tail _ step ih =>
    rw [← ih] at steady
    exact (step.registry_eq steady).trans ih

/-- A step of a lookup leaves the registry as it is and the tree faithful to it. -/
theorem Step.faithful (step : Step context state after)
    (faithful : state.tree.Faithful state.registry) :
    after.registry = state.registry ∧ after.tree.Faithful state.registry := by
  have sound := faithful.sound.of_grown (step.grown faithful.sound)
  refine ⟨step.registry_eq faithful.steady, ?_, sound, faithful.constant⟩
  cases step with
  | quiet quiet =>
    cases quiet with
    | note notice => exact faithful.toMirrors
    | flatten dotless lowered found compoundable =>
      rw [Tree.child?_root faithful.sound, lowered] at found
      exact faithful.toMirrors.addCompounds faithful.sound found dotless compoundable
  | register schema lowered free serves =>
    rename_i name connector
    obtain ⟨hname, constant⟩ := faithful.constant.enabled? serves
    rw [(constant.register state context schema).2.2]
    obtain ⟨_, gains⟩ := constant.grownBy_gains faithful.sound context
    apply faithful.toMirrors.register faithful.sound constant gains
    · rw [← hname, lowered]
      exact serves
    · rw [faithful.sound.content_kind_eq_none, ← hname, ← Tree.child?_root faithful.sound]
      exact free

theorem Steps.faithful (steps : Steps context state after)
    (faithful : state.tree.Faithful state.registry) :
    after.registry = state.registry ∧ after.tree.Faithful state.registry := by
  induction steps with
  | refl => exact ⟨rfl, faithful⟩
  | tail _ step ih =>
    obtain ⟨same, faithful'⟩ := ih
    rw [← same] at faithful'
    obtain ⟨same', faithful''⟩ := step.faithful faithful'
    rw [same] at faithful''
    exact ⟨same'.trans same, faithful''⟩

end LookupState

end FederatedCatalog
