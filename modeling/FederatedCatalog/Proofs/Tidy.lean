import FederatedCatalog.Proofs.Run
import FederatedCatalog.Proofs.Steady
import FederatedCatalog.Proofs.Walk

namespace FederatedCatalog

namespace Tree

structure Tidy (tree : Tree) : Prop where
  dotted : ∀ {key kind}, tree.content.kind [key] = some kind → ¬Undotted key →
    ∃ target, kind = .compound target
  flattened : ∀ {outer inner kind}, Undotted outer →
    tree.content.kind [compoundName outer inner] = some kind → ∀ {other kind'},
    tree.content.kind [outer, other] = some kind' →
      isCompoundable kind' = true ∧ (tree.content.kind [compoundName outer other]).isSome

theorem tidy_bare : Tidy bare := by
  have below : ∀ {key : String} {rest : List String} {kind : NodeKind},
      bare.content.kind (key :: rest) ≠ some kind := by
    intro key rest kind h
    rw [content_bare] at h
    simp [Content.ofLists] at h
  constructor
  · intro key kind h
    exact absurd h below
  · intro outer inner kind _ h
    exact absurd h below

variable {tree : Tree}

theorem Sound.uncompoundable?_none (sound : tree.Sound) {outer : String} {parent : NodeId}
    (hparent : tree.locate? [outer] = some parent) (dotless : Undotted outer) :
    tree.uncompoundable? parent = none ↔ ∀ {other kind},
      tree.content.kind [outer, other] = some kind → isCompoundable kind = true := by
  have hfollow := sound.follow_of_undotted hparent dotless
  have hget := fun key => get?_children_of_locate? hparent hfollow key
  rw [uncompoundable?_eq_none]
  constructor
  · intro h other kind hkind
    obtain ⟨id, node, hid, hnode, rfl⟩ := content_kind_eq_some.mp hkind
    have hm : (other, id) ∈ tree.children parent := NameMap.mem_of_get? ((hget other).trans hid)
    exact h (other, id) hm hnode
  · intro h entry hm node hnode
    have hentry := NameMap.get?_of_mem (sound.sorted_children parent) hm
    exact h (content_kind_of_locate? ((hget entry.1).symm.trans hentry) hnode)

theorem Tidy.register {before after : Tree} {gain : Content} (tidy : before.Tidy)
    (sound : before.Sound) (gains : before.Gains after gain) {name : String}
    (dotless : Undotted name) (free : before.content.kind [name] = none)
    (own : ∀ {path kind}, gain.kind path = some kind → ∃ rest, path = name :: rest) :
    after.Tidy := by
  have hkind : ∀ {path kind}, after.content.kind path = some kind →
      before.content.kind path = some kind ∨ ∃ rest, path = name :: rest := by
    intro path kind h
    rw [gains.content] at h
    rcases Option.or_eq_some_iff.mp h with h | ⟨_, h⟩
    · exact Or.inl h
    · exact Or.inr (own h)
  constructor
  · intro key kind h hdot
    rcases hkind h with h | ⟨rest, heq⟩
    · exact tidy.dotted h hdot
    · obtain ⟨rfl, _⟩ := List.cons.inj heq
      exact absurd dotless hdot
  · intro outer inner kind houter h other kind' hother
    rcases hkind h with h | ⟨rest, heq⟩
    · have hbefore : before.content.kind [outer, other] = some kind' := by
        rcases hkind hother with hother | ⟨rest, heq⟩
        · exact hother
        · -- the schema's compound nodes are older than the schema
          obtain ⟨rfl, _⟩ := List.cons.inj heq
          obtain ⟨target, rfl⟩ := tidy.dotted h (not_undotted_compoundName _ _)
          have htarget : before.locate? ([outer] ++ [inner]) = some target :=
            sound.compound_target houter h
          obtain ⟨mid, hmid⟩ := locate?_of_append htarget
          rw [sound.content_kind_eq_none.mp free] at hmid
          cases hmid
      obtain ⟨hcompoundable, hsome⟩ := tidy.flattened houter h hbefore
      refine ⟨hcompoundable, ?_⟩
      rw [gains.content]
      simp [Content.overlay, hsome]
    · obtain ⟨heq, _⟩ := List.cons.inj heq
      rw [← heq] at dotless
      exact absurd dotless (not_undotted_compoundName outer inner)

theorem Tidy.addCompounds (tidy : tree.Tidy) (sound : tree.Sound) {outer : String}
    {parent : NodeId} (hparent : tree.locate? [outer] = some parent) (dotless : Undotted outer)
    (hall : tree.uncompoundable? parent = none) : (tree.addCompounds outer parent).Tidy := by
  have hcompound := addCompounds_kind sound hparent dotless hall
  have hbelow : ∀ first second : String,
      (tree.addCompounds outer parent).content.kind [first, second] =
        tree.content.kind [first, second] := by
    intro first second
    exact addCompounds_kind_of_ne sound hparent dotless hall (by simp)
  constructor
  · intro key kind h hdot
    rcases addCompounds_kind_cases sound hparent dotless hall h with h | compound
    · exact tidy.dotted h hdot
    · exact compound
  · intro other inner kind hother h third kind' hthird
    rw [hbelow] at hthird
    by_cases heq : other = outer
    · subst heq
      refine ⟨(sound.uncompoundable?_none hparent dotless).mp hall hthird, ?_⟩
      obtain ⟨id, _, hid, _⟩ := content_kind_eq_some.mp hthird
      rw [hcompound, hid]
      cases tree.content.kind [compoundName other third] <;> rfl
    · have hne : ∀ any kept, [compoundName other any] ≠ [compoundName outer kept] := by
        intro any kept eq
        exact heq (compoundName_inj hother dotless (List.singleton_inj.mp eq)).1
      rw [addCompounds_kind_of_ne sound hparent dotless hall (hne inner)] at h
      rw [addCompounds_kind_of_ne sound hparent dotless hall (hne third)]
      exact tidy.flattened hother h hthird

end Tree

theorem LookupState.Step.tidy {context : LookupContext} {state after : LookupState}
    (step : Step context state after) (sound : state.tree.Sound)
    (steady : state.registry.Holds Connector.Steady) (tidy : state.tree.Tidy) :
    after.tree.Tidy := by
  cases step with
  | quiet quiet =>
    cases quiet with
    | note notice => exact tidy
    | flatten dotless lowered found compoundable =>
      rw [Tree.child?_root sound, lowered] at found
      exact tidy.addCompounds sound found dotless compoundable
  | register schema lowered free serves =>
    rename_i name connector
    obtain ⟨hname, hsteady⟩ := steady.enabled? serves
    rw [(hsteady.register state context schema).2.2]
    obtain ⟨_, gains⟩ := hsteady.grownBy_gains sound context
    apply tidy.register sound gains (undotted_lower.mpr hsteady.dotless) _
      (hsteady.addsOwn _).place_of_added_kind
    rw [sound.content_kind_eq_none, ← hname, ← Tree.child?_root sound]
    exact free

theorem LookupState.Steps.tidy {context : LookupContext} {state after : LookupState}
    (steps : Steps context state after) (sound : state.tree.Sound)
    (steady : state.registry.Holds Connector.Steady) (tidy : state.tree.Tidy) :
    after.tree.Tidy := by
  induction steps with
  | refl => exact tidy
  | tail first step ih =>
    have before : Steps context state _ := first
    exact step.tidy (before.sound sound) (before.registry Registry.lasting_holds steady) ih

namespace Catalog

/-- In every run that brings in steady connectors only, the registry holds steady connectors and the
trees of all sessions are tidy. -/
theorem run_tidy {start : Catalog} (empty : start.registry = .empty) (fresh : start.sessions = #[])
    {operations : List Operation}
    (steady : ∀ operation ∈ operations, operation.Brings Connector.Steady) :
    (start.run operations).registry.Holds Connector.Steady ∧
      (start.run operations).Sessions Tree.Tidy :=
  run_holds empty fresh Tree.tidy_bare
    (fun _ _ _ step sound holds tidy => step.tidy sound holds tidy) steady

end Catalog

end FederatedCatalog
