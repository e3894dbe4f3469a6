import FederatedCatalog.Proofs.Cached
import FederatedCatalog.Proofs.Tidy

namespace FederatedCatalog.LookupState

variable {state : LookupState} {context : LookupContext} {connector : Connector}

/-- The tree with the root's child of that name, registered by the connector if it is not there. -/
def loaded (state : LookupState) (context : LookupContext) (outer : String)
    (connector : Connector) : Tree :=
  match state.tree.child? Tree.root outer with
  | some _ => state.tree
  | none => state.grownBy context connector

theorem loaded_of_some {outer : String} {id : NodeId}
    (h : state.tree.child? Tree.root outer = some id) :
    state.loaded context outer connector = state.tree := by
  simp only [loaded, h]

theorem loaded_of_none {outer : String} (h : state.tree.child? Tree.root outer = none) :
    state.loaded context outer connector = state.grownBy context connector := by
  simp only [loaded, h]

theorem grownBy_grown (context : LookupContext) (steady : connector.Steady)
    (sound : state.tree.Sound) : state.tree.Grown (state.grownBy context connector) := by
  obtain ⟨_, gains⟩ := steady.grownBy_gains sound context
  exact gains.grown

theorem grownBy_locate? (context : LookupContext) (steady : connector.Steady)
    (sound : state.tree.Sound) : ∃ id,
      (state.grownBy context connector).locate? [Text.lower connector.name] = some id := by
  obtain ⟨call, gains⟩ := steady.grownBy_gains sound context
  exact (steady.addsOwn call).locate?_name sound gains

theorem loaded_grown (context : LookupContext) (steady : connector.Steady)
    (sound : state.tree.Sound) (outer : String) :
    state.tree.Grown (state.loaded context outer connector) := by
  cases h : state.tree.child? Tree.root outer with
  | some id =>
    rw [loaded_of_some h]
    exact .refl
  | none =>
    rw [loaded_of_none h]
    exact grownBy_grown context steady sound

theorem loaded_locate? (context : LookupContext) (steady : connector.Steady)
    (sound : state.tree.Sound) {outer : String}
    (hname : outer = Text.lower connector.name) :
    ∃ id, (state.loaded context outer connector).locate? [outer] = some id := by
  cases h : state.tree.child? Tree.root outer with
  | some id =>
    rw [loaded_of_some h]
    rw [Tree.child?_root sound, hname, Text.lower_lower, ← hname] at h
    exact ⟨id, h⟩
  | none =>
    rw [loaded_of_none h, hname]
    exact grownBy_locate? context steady sound

theorem findSchema_served (context : LookupContext) (steady : connector.Steady)
    (sound : state.tree.Sound) {name : String}
    (serves : state.registry.enabled? (Text.lower name) = some connector)
    (hname : Text.lower name = Text.lower connector.name) : ∃ id,
      (state.findSchema context name).answer = .ok (some id) ∧
      (state.findSchema context name).after.registry = state.registry ∧
      (state.findSchema context name).after.tree =
        state.loaded context (Text.lower name) connector ∧
      (state.loaded context (Text.lower name) connector).locate? [Text.lower name] = some id := by
  obtain ⟨id, hid⟩ := loaded_locate? context steady sound hname
  have sound' := sound.of_grown (loaded_grown context steady sound (Text.lower name))
  cases free : state.tree.child? Tree.root (Text.lower name) with
  | some found =>
    rw [loaded_of_some free] at hid ⊢
    rw [Tree.child?_root sound, Text.lower_lower, hid] at free
    cases Option.some.inj free
    have hcached : state.tree.child? Tree.root name = some id := by
      rw [Tree.child?_root sound]
      exact hid
    rw [findSchema_cached hcached]
    exact ⟨id, rfl, rfl, rfl, hid⟩
  | none =>
    rw [loaded_of_none free] at hid sound' ⊢
    obtain ⟨hanswer, hregistry, htree⟩ := steady.register state context (Text.lower name)
    rw [Registry.enabled?_lower] at serves
    rw [Tree.child?_lower] at free
    rw [findSchema_registers serves free]
    refine ⟨id, ?_, hregistry, htree, hid⟩
    simp only [LookupRun.read, hanswer, Except.map, htree]
    rw [Tree.child?_root sound', Text.lower_lower, hid]

theorem firstLevel_loaded (context : LookupContext) (steady : connector.Steady)
    (sound : state.tree.Sound) {outer : String} (schema : String)
    (hname : outer = Text.lower connector.name) : ∃ after id,
      state.firstLevel context schema outer connector = ⟨.ok (some id), after⟩ ∧
      after.registry = state.registry ∧ after.tree = state.loaded context outer connector ∧
      after.tree.locate? [outer] = some id := by
  obtain ⟨id, hid⟩ := loaded_locate? context steady sound hname
  have lowered : Text.lower outer = outer := by
    rw [hname]
    exact Text.lower_lower _
  have sound' := sound.of_grown (loaded_grown context steady sound outer)
  cases free : state.tree.child? Tree.root outer with
  | some found =>
    rw [loaded_of_some free] at hid ⊢
    have hfound := free
    rw [Tree.child?_root sound, lowered, hid] at hfound
    cases Option.some.inj hfound
    exact ⟨state, id, by simp only [firstLevel, free], rfl, rfl, hid⟩
  | none =>
    rw [loaded_of_none free] at hid sound' ⊢
    obtain ⟨hanswer, hregistry, htree⟩ := steady.register state context schema
    refine ⟨(state.register context schema connector).after, id, ?_, hregistry, htree,
      by rw [htree]; exact hid⟩
    have hchild : (state.register context schema connector).after.tree.child? Tree.root outer =
        some id := by
      rw [htree, Tree.child?_root sound', lowered]
      exact hid
    cases hrun : state.register context schema connector with
    | mk answer after =>
      rw [hrun] at hanswer hchild
      cases hanswer
      simp only [firstLevel, free, hrun, LookupRun.andThen_ok, hchild]

theorem findSchema_compound (context : LookupContext) (steady : connector.Steady)
    (sound : state.tree.Sound)
    {name outer inner : String} (hname : Text.lower name = Tree.compoundName outer inner)
    (ho : Undotted outer) (hi : Undotted inner)
    (free : state.tree.locate? [Text.lower name] = none)
    (unserved : state.registry.enabled? (Text.lower name) = none)
    (serves : state.registry.enabled? outer = some connector)
    (houter : outer = Text.lower connector.name) : ∃ parent,
      (state.loaded context outer connector).locate? [outer] = some parent ∧
      (state.findSchema context name).after.registry = state.registry ∧
      ((∃ entry, (state.loaded context outer connector).uncompoundable? parent = some entry ∧
          (state.findSchema context name).answer =
            .error (.unexpectedSchema (Tree.compoundName outer entry.1) entry.2.typeName
              ((state.loaded context outer connector).fullName parent)) ∧
          (state.findSchema context name).after.tree = state.loaded context outer connector) ∨
        (state.loaded context outer connector).uncompoundable? parent = none ∧
          (state.findSchema context name).answer =
            .ok (((state.loaded context outer connector).addCompounds outer parent).locate?
              [Text.lower name]) ∧
          (state.findSchema context name).after.tree =
            (state.loaded context outer connector).addCompounds outer parent) := by
  obtain ⟨after, parent, hfirst, hregistry, htree, hparent⟩ :=
    firstLevel_loaded context steady sound (Text.lower name) houter
  have sound' := sound.of_grown (loaded_grown context steady sound outer)
  have hdotted : Path.dotted (Text.lower name) = [outer, inner] := by
    rw [hname]
    exact Tree.dotted_compoundName ho hi
  have hload : state.load context (Text.lower name) = after.flatten outer parent := by
    simp only [load, unserved, hdotted, serves, hfirst, LookupRun.andThen_ok]
  have hnone : state.tree.child? Tree.root (Text.lower name) = none := by
    rw [Tree.child?_root sound, Text.lower_lower]
    exact free
  have hfind : state.findSchema context name = (after.flatten outer parent).read
      fun _ tree => tree.child? Tree.root (Text.lower name) := by
    simp only [findSchema, hnone, hload]
  rw [htree] at hparent
  refine ⟨parent, hparent, ?_⟩
  rw [hfind, ← htree]
  rw [← htree] at sound' hparent
  cases hun : after.tree.uncompoundable? parent with
  | some entry =>
    have hflatten : after.flatten outer parent =
        ⟨.error (.unexpectedSchema (Tree.compoundName outer entry.1) entry.2.typeName
          (after.tree.fullName parent)), after⟩ := by
      simp only [flatten, hun]
    rw [hflatten]
    exact ⟨hregistry, Or.inl ⟨entry, rfl, rfl, rfl⟩⟩
  | none =>
    have hflatten : after.flatten outer parent =
        ⟨.ok (), { after with tree := after.tree.addCompounds outer parent }⟩ := by
      simp only [flatten, hun]
    rw [hflatten]
    refine ⟨hregistry, Or.inr ⟨rfl, ?_, rfl⟩⟩
    have grown := (Tree.addCompounds_gains sound' hparent ho hun).grown
    simp only [LookupRun.read, Except.map]
    rw [Tree.child?_root (sound'.of_grown grown), Text.lower_lower]

theorem findSchema_unserved (sound : state.tree.Sound) {name : String}
    (free : state.tree.locate? [Text.lower name] = none)
    (unserved : state.registry.enabled? (Text.lower name) = none)
    (parts : ∀ outer inner, Path.dotted (Text.lower name) = [outer, inner] →
      state.registry.enabled? outer = none) :
    state.findSchema context name = ⟨.ok none, state⟩ := by
  have hnone : state.tree.child? Tree.root (Text.lower name) = none := by
    rw [Tree.child?_root sound, Text.lower_lower]
    exact free
  have hload : state.load context (Text.lower name) = ⟨.ok (), state⟩ := by
    simp only [load, unserved]
    split
    next outer inner hdotted => rw [parts outer inner hdotted]
    next => rfl
  simp only [findSchema, hnone, hload, LookupRun.read, Except.map]

/-- How the lookup of a compound name ends, told by the children of the schema that the name's first
part stands for. -/
inductive CompoundEnd (tree : Tree) (outer inner : String) (run : LookupRun (Option NodeId)) : Prop
  | refused {parent : NodeId} {entry : String × NodeKind}
      (hparent : tree.locate? [outer] = some parent)
      (hentry : tree.uncompoundable? parent = some entry)
      (answer : run.answer = .error (.unexpectedSchema (Tree.compoundName outer entry.1)
        entry.2.typeName (".".intercalate [outer])))
  | absent {parent : NodeId} (hparent : tree.locate? [outer] = some parent)
      (hnone : tree.uncompoundable? parent = none)
      (hinner : tree.locate? [outer, inner] = none) (answer : run.answer = .ok none)
  | found {parent target id : NodeId} (hparent : tree.locate? [outer] = some parent)
      (hnone : tree.uncompoundable? parent = none)
      (hinner : tree.locate? [outer, inner] = some target) (answer : run.answer = .ok (some id))
      (located : run.after.tree.locate? [Tree.compoundName outer inner] = some id)
      (same : tree.SameBelow run.after.tree)

section Compound

variable {name outer inner : String} (sound : state.tree.Sound) (tidy : state.tree.Tidy)
  (hname : Text.lower name = Tree.compoundName outer inner) (ho : Undotted outer)

include sound tidy hname ho

theorem findSchema_compound_there {id : NodeId}
    (there : state.tree.locate? [Text.lower name] = some id) :
    CompoundEnd (state.loaded context outer connector) outer inner
      (state.findSchema context name) := by
  have lowered : Text.lower outer = outer := (Tree.lower_parts hname).1
  have hcached : state.tree.child? Tree.root name = some id := by
    rw [Tree.child?_root sound]
    exact there
  rw [hname] at there
  obtain ⟨node, hnode⟩ := sound.locate?_node there
  have hkind := Tree.content_kind_of_locate? there hnode
  obtain ⟨target, hcompound⟩ := tidy.dotted hkind (Tree.not_undotted_compoundName outer inner)
  have htarget := sound.compound_target ho (hcompound ▸ hkind)
  have hsplit : state.tree.locate? ([outer] ++ [inner]) = some target := htarget
  obtain ⟨parent, hparent⟩ := Tree.locate?_of_append hsplit
  have hchild : state.tree.child? Tree.root outer = some parent := by
    rw [Tree.child?_root sound, lowered]
    exact hparent
  rw [loaded_of_some hchild, findSchema_cached hcached]
  refine .found hparent ?_ htarget rfl there (.refl state.tree)
  rw [sound.uncompoundable?_none hparent ho]
  intro key kind hkey
  exact (tidy.flattened ho hkind hkey).1

variable (steady : state.registry.Holds Connector.Steady)
  (serves : state.registry.enabled? outer = some connector)

include steady serves

theorem findSchema_compound_new (hi : Undotted inner)
    (free : state.tree.locate? [Text.lower name] = none) :
    CompoundEnd (state.loaded context outer connector) outer inner
      (state.findSchema context name) := by
  have loweredName : Text.lower (Tree.compoundName outer inner) = Tree.compoundName outer inner :=
    hname ▸ Text.lower_lower name
  obtain ⟨houter, hsteady⟩ := steady.enabled? serves
  rw [(Tree.lower_parts loweredName).1] at houter
  have unserved : state.registry.enabled? (Text.lower name) = none := by
    rw [hname]
    exact (steady.mono fun _ h => h.dotless).enabled?_compoundName loweredName
  have soundT := sound.of_grown (loaded_grown context hsteady sound outer)
  obtain ⟨parent, hparent, _, ⟨entry, hentry, hanswer, _⟩ | ⟨hnone, hanswer, htree⟩⟩ :=
    findSchema_compound context hsteady sound hname ho hi free unserved serves houter
  · refine .refused hparent hentry ?_
    rw [hanswer, Tree.fullName, (soundT.locate?_eq_some_iff.mp hparent).2]
  · have same := Tree.addCompounds_sameBelow soundT hparent ho hnone
    have soundU := soundT.of_grown same.grown
    have hkind := Tree.addCompounds_kind soundT hparent ho hnone inner
    rw [hname] at hanswer
    cases hcompound : ((state.loaded context outer connector).addCompounds outer parent).locate?
      [Tree.compoundName outer inner] with
    | none =>
      rw [hcompound] at hanswer
      rw [← soundU.content_kind_eq_none, hkind, Option.or_eq_none_iff,
        Option.map_eq_none_iff] at hcompound
      exact .absent hparent hnone hcompound.2 hanswer
    | some id =>
      have tidyU := ((state.findSchema_course context name).steps.tidy sound steady tidy)
      rw [htree] at tidyU
      rw [hcompound] at hanswer
      obtain ⟨node, hnode⟩ := soundU.locate?_node hcompound
      have hthere := Tree.content_kind_of_locate? hcompound hnode
      obtain ⟨target, htarget⟩ := tidyU.dotted hthere (Tree.not_undotted_compoundName outer inner)
      have hlocate := soundU.compound_target ho (htarget ▸ hthere)
      have hinner := same.grown.keeps.locate?_eq soundT soundU (same.kind [outer, inner] (by simp))
      rw [hinner] at hlocate
      exact .found hparent hnone hlocate hanswer (htree ▸ hcompound) (htree ▸ same)

theorem findSchema_compoundEnd (context : LookupContext) (hi : Undotted inner) :
    CompoundEnd (state.loaded context outer connector) outer inner
      (state.findSchema context name) := by
  cases h : state.tree.locate? [Text.lower name] with
  | some id => exact findSchema_compound_there sound tidy hname ho h
  | none => exact findSchema_compound_new sound tidy hname ho steady serves hi h

end Compound

end FederatedCatalog.LookupState
