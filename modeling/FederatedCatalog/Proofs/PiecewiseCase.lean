import FederatedCatalog.Proofs.Advertised
import FederatedCatalog.Proofs.AliasPath
import FederatedCatalog.Proofs.CaseAtDot
import FederatedCatalog.Proofs.CompoundPath
import FederatedCatalog.Proofs.Constant

namespace FederatedCatalog

namespace Connector

/-- A connector that registers a schema of that name, in any case, and next to it no schema of a
foreign type. -/
def Offers (connector : Connector) (inner : String) : Prop :=
  ∃ serial name schema failure spelled below,
    connector = .described serial name schema 0 failure ∧ (spelled, below) ∈ schema.schemas ∧
    Text.lower spelled = Text.lower inner ∧ ∀ entry ∈ schema.schemas, entry.2.foreignType? = none

theorem Offers.added {connector : Connector} {inner : String} (offers : connector.Offers inner)
    (call : Nat) :
    (connector.added call).kind [Text.lower connector.name, Text.lower inner] ≠ none ∧
    ∀ {other kind}, (connector.added call).kind [Text.lower connector.name, other] = some kind →
      Tree.isCompoundable kind = true := by
  obtain ⟨serial, name, schema, failure, spelled, below, rfl, hm, hspelled, native⟩ := offers
  have listed := added_described_below serial name schema failure call
  constructor
  · intro hnone
    have absent := (listed (Text.lower inner)).symm.trans hnone
    rw [Option.map_eq_none_iff, List.find?_eq_none] at absent
    exact absent (spelled, below) hm (decide_eq_true hspelled)
  · intro other kind hkind
    obtain ⟨entry, hfind, rfl⟩ := Option.map_eq_some_iff.mp ((listed other).symm.trans hkind)
    rw [native entry (List.mem_of_find?_eq_some hfind)]
    rfl

end Connector

namespace Tree

/-- If the root has a child of that name, the child has one of the other name, and none of a foreign
type. -/
def Furnished (tree : Tree) (outer inner : String) : Prop :=
  tree.content.kind [outer] ≠ none → tree.content.kind [outer, inner] ≠ none ∧
    ∀ {other kind}, tree.content.kind [outer, other] = some kind → isCompoundable kind = true

theorem furnished_bare (outer inner : String) : bare.Furnished outer inner := by
  intro h
  rw [content_bare] at h
  simp [Content.ofLists] at h

variable {before after : Tree} {outer inner : String}

theorem Furnished.of_same (furnished : before.Furnished outer inner)
    (same : ∀ rest, after.content.kind (outer :: rest) = before.content.kind (outer :: rest)) :
    after.Furnished outer inner := by
  intro h
  rw [same] at h
  obtain ⟨there, compoundable⟩ := furnished h
  constructor
  · rw [same]
    exact there
  · intro other kind hkind
    rw [same] at hkind
    exact compoundable hkind

theorem Sound.furnished_register (sound : before.Sound) {connector : Connector} {call : Nat}
    (gains : before.Gains after (connector.added call)) (offers : connector.Offers inner)
    (free : before.content.kind [Text.lower connector.name] = none) :
    after.Furnished (Text.lower connector.name) (Text.lower inner) := by
  have inside : ∀ other, after.content.kind [Text.lower connector.name, other] =
      (connector.added call).kind [Text.lower connector.name, other] :=
    fun other => (gains.content_below sound free [other]).1
  intro _
  obtain ⟨there, compoundable⟩ := offers.added call
  constructor
  · rw [inside]
    exact there
  · intro other kind hkind
    rw [inside] at hkind
    exact compoundable hkind

end Tree

namespace LookupState

variable {state after : LookupState} {context : LookupContext} {connector : Connector}
  {outer inner : String}

theorem Step.furnished (step : Step context state after) (sound : state.tree.Sound)
    (offering : state.registry.Holds fun connector => connector.Unfailing ∧
      (Text.lower connector.name = outer → connector.Offers inner)) (dotless : Undotted outer)
    (furnished : state.tree.Furnished outer (Text.lower inner)) :
    after.tree.Furnished outer (Text.lower inner) := by
  cases step with
  | quiet quiet =>
    cases quiet with
    | note notice => exact furnished
    | flatten dotless' lowered found compoundable =>
      rw [Tree.child?_root sound, lowered] at found
      apply furnished.of_same
      intro rest
      apply Tree.addCompounds_kind_of_ne sound found dotless' compoundable
      intro any heq
      obtain ⟨rfl, _⟩ := List.cons.inj heq
      exact Tree.not_undotted_compoundName _ any dotless
  | register schema lowered free serves =>
    rename_i name connector
    obtain ⟨hname, unfailing, offers⟩ := offering.enabled? serves
    have steady := unfailing.steady
    rw [(steady.register state context schema).2.2]
    obtain ⟨_, gains⟩ := steady.grownBy_gains sound context
    by_cases heq : Text.lower connector.name = outer
    · -- nothing was below the name before, so all that is there is what the connector adds
      subst heq
      rw [Tree.child?_root sound, hname, ← sound.content_kind_eq_none] at free
      exact sound.furnished_register gains (offers rfl) free
    · apply furnished.of_same
      intro rest
      refine ((steady.addsOwn _).content_elsewhere gains ?_).1
      intro rest' h
      exact heq (List.cons.inj h).1.symm

theorem loaded_furnished (context : LookupContext) (steady : connector.Steady)
    (sound : state.tree.Sound) (offers : connector.Offers inner)
    (hname : outer = Text.lower connector.name)
    (there : state.tree.child? Tree.root outer ≠ none →
      state.tree.Furnished outer (Text.lower inner)) :
    (state.loaded context outer connector).Furnished outer (Text.lower inner) := by
  cases h : state.tree.child? Tree.root outer with
  | some id =>
    rw [loaded_of_some h]
    exact there (by rw [h]; exact Option.some_ne_none id)
  | none =>
    rw [loaded_of_none h]
    obtain ⟨_, gains⟩ := steady.grownBy_gains sound context
    rw [hname, Tree.child?_root sound, Text.lower_lower, ← sound.content_kind_eq_none] at h
    rw [hname]
    exact sound.furnished_register gains offers h

/-- The compound name of a schema that is offered is found, and leads to the schema. -/
theorem findSchema_offered (sound : state.tree.Sound) (tidy : state.tree.Tidy)
    (steady : state.registry.Holds Connector.Steady)
    (serves : state.registry.enabled? outer = some connector) {name : String}
    (hname : Text.lower name = Tree.compoundName outer inner) (ho : Undotted outer)
    (hi : Undotted inner)
    (furnished : (state.loaded context outer connector).Furnished outer inner) : ∃ id target,
      (state.findSchema context name).answer = .ok (some id) ∧
      (state.findSchema context name).after.tree.locate? [outer, inner] = some target ∧
      (state.findSchema context name).after.tree.follow id = target := by
  obtain ⟨houter, hsteady⟩ := steady.enabled? serves
  have soundLoaded := sound.of_grown (loaded_grown context hsteady sound outer)
  have course := state.findSchema_course context name
  have sound' := course.steps.sound sound
  have tidy' := course.steps.tidy sound steady tidy
  have furnish : ∀ {parent}, (state.loaded context outer connector).locate? [outer] = some parent →
      (state.loaded context outer connector).content.kind [outer, inner] ≠ none ∧
        (state.loaded context outer connector).uncompoundable? parent = none := by
    intro parent hparent
    obtain ⟨there, compoundable⟩ := furnished (by
      rw [Ne, soundLoaded.content_kind_eq_none, hparent]
      exact Option.some_ne_none parent)
    exact ⟨there, (soundLoaded.uncompoundable?_none hparent ho).mpr compoundable⟩
  cases findSchema_compoundEnd sound tidy hname ho steady serves context hi with
  | refused hparent hentry answer =>
    rw [(furnish hparent).2] at hentry
    cases hentry
  | absent hparent hnone hinner answer =>
    exact absurd (soundLoaded.content_kind_eq_none.mpr hinner) (furnish hparent).1
  | found hparent hnone hinner answer located same =>
    obtain ⟨target, htarget, hfollow, _⟩ := tidy'.walk_compound sound' ho located
    exact ⟨_, target, answer, htarget, hfollow⟩

theorem findChild_lower {name name' : String} (same : Text.lower name = Text.lower name')
    (plain : context.aliases.namespaceAlias context.settings.user name = none)
    (plain' : context.aliases.namespaceAlias context.settings.user name' = none)
    (caseSensitive caseSensitive' : Bool) :
    (state.findChild context name caseSensitive).answer =
        (state.findChild context name' caseSensitive').answer ∧
      (state.findChild context name caseSensitive).after.untraced =
        (state.findChild context name' caseSensitive').after.untraced := by
  have schema : state.untraced.findSchema context name =
      state.untraced.findSchema context name' := by
    simp only [findSchema, same]
  have answer := congrArg LookupRun.answer schema
  have after := congrArg (fun run => run.after.untraced) schema
  rw [findChild_of_no_alias caseSensitive plain, findChild_of_no_alias caseSensitive' plain',
    findSchema_untraced, findSchema_untraced _ _ name']
  exact ⟨answer, after⟩

end LookupState

namespace Catalog

theorem run_furnished {start : Catalog} (empty : start.registry = .empty)
    (fresh : start.sessions = #[]) {outer inner : String} (dotless : Undotted outer)
    {operations : List Operation}
    (offering : ∀ operation ∈ operations, operation.Brings fun connector => connector.Unfailing ∧
      (Text.lower connector.name = outer → connector.Offers inner)) :
    (start.run operations).Sessions fun tree => tree.Furnished outer (Text.lower inner) :=
  (run_holds empty fresh (Tree.furnished_bare outer (Text.lower inner))
    (fun _ _ _ step sound offering furnished => step.furnished sound offering dotless furnished)
    offering).2

/-- In every session that connectors which never fail have filled, a compound name leads to the same
answer however its parts are spelled, and to the same tree and registry, except that a spelling with
a capital sigma at the dot is looked up as another name. It leads to a schema that the connector of
the first part offers, unless the session has the schema of a connector that did not offer it. -/
theorem compoundName_ignores_case {start : Catalog} (empty : start.registry = .empty)
    (fresh : start.sessions = #[]) {operations : List Operation}
    (unfailing : ∀ operation ∈ operations, operation.Brings Connector.Unfailing) {number : Nat}
    {session : Session} (opened : (start.run operations).sessions[number]? = some session)
    {outer inner : String} (regular : ¬Text.SigmaAtDot outer inner)
    (plain : (start.run operations).aliasTarget? session (Tree.compoundName outer inner) = none)
    (caseSensitive : Bool) :
    (∀ {outer' inner'}, Text.lower outer' = Text.lower outer →
      Text.lower inner' = Text.lower inner →
      (Text.lower (Tree.compoundName outer' inner') = Text.lower (Tree.compoundName outer inner) ↔
        ¬Text.SigmaAtDot outer' inner') ∧
      (¬Text.SigmaAtDot outer' inner' →
        (start.run operations).aliasTarget? session (Tree.compoundName outer' inner') = none →
        ∀ caseSensitive', ((start.run operations).findChild session
            (Tree.compoundName outer' inner') caseSensitive').answer =
          ((start.run operations).findChild session (Tree.compoundName outer inner)
            caseSensitive).answer ∧
        ((start.run operations).findChild session (Tree.compoundName outer' inner')
            caseSensitive').after.untraced =
          ((start.run operations).findChild session (Tree.compoundName outer inner)
            caseSensitive).after.untraced)) ∧
    ∀ {connector}, (start.run operations).registry.enabled? outer = some connector →
      connector.Offers inner → Undotted inner →
      (session.tree.child? Tree.root outer = none ∨ ∀ operation ∈ operations, operation.Brings
        fun other => Text.lower other.name = Text.lower outer → other.Offers inner) →
      ∃ id target, ((start.run operations).findChild session (Tree.compoundName outer inner)
          caseSensitive).answer = .ok (some id) ∧
        ((start.run operations).findChild session (Tree.compoundName outer inner)
          caseSensitive).after.tree.locate? [Text.lower outer, Text.lower inner] = some target ∧
        ((start.run operations).findChild session (Tree.compoundName outer inner)
          caseSensitive).after.tree.follow id = target := by
  have lowered := (Text.lower_compoundName_iff outer inner).mpr regular
  constructor
  · intro outer' inner' houter hinner
    have alike := Text.lower_compoundName_iff outer' inner'
    rw [houter, hinner, ← lowered] at alike
    refine ⟨alike, ?_⟩
    intro regular' plain' caseSensitive'
    exact LookupState.findChild_lower (alike.mpr regular') plain' plain caseSensitive'
      caseSensitive
  · intro connector serves offers dotless loaded
    obtain ⟨holds, sessions⟩ := run_tidy empty fresh (brings_steady unfailing)
    obtain ⟨sound, tidy⟩ := sessions opened
    obtain ⟨houter, steady⟩ := holds.enabled? serves
    have ho : Undotted (Text.lower outer) := by
      rw [houter]
      exact undotted_lower.mpr steady.dotless
    have there : session.tree.child? Tree.root (Text.lower outer) ≠ none →
        session.tree.Furnished (Text.lower outer) (Text.lower inner) := by
      intro hthere
      rcases loaded with free | offered
      · rw [Tree.child?_lower, free] at hthere
        exact absurd rfl hthere
      · have offering := fun operation hm => (unfailing operation hm).and (offered operation hm)
        exact (run_furnished empty fresh ho offering opened).2
    have soundNoted : (((start.run operations).state session).note (.resolving
      (Tree.compoundName outer inner) caseSensitive)).tree.Sound := sound
    have furnished := LookupState.loaded_furnished ((start.run operations).context session) steady
      soundNoted offers houter there
    have looked : (start.run operations).findChild session (Tree.compoundName outer inner)
        caseSensitive = (((start.run operations).state session).note (.resolving
          (Tree.compoundName outer inner) caseSensitive)).findSchema
          ((start.run operations).context session) (Tree.compoundName outer inner) :=
      LookupState.findChild_of_no_alias caseSensitive plain
    rw [looked]
    rw [← Registry.enabled?_lower] at serves
    exact LookupState.findSchema_offered soundNoted tidy holds serves lowered ho
      (undotted_lower.mpr dotless) furnished

/-- The files' schema is found in capital letters, and so in small ones. -/
theorem dfs_tmp_in_capitals :
    (((empty .immediate).run filesAndSession).findChild ⟨.bare, .immediate⟩
        (Tree.compoundName "dfs" "tmp") false).answer =
      (((empty .immediate).run filesAndSession).findChild ⟨.bare, .immediate⟩
        (Tree.compoundName "DFS" "TMP") false).answer ∧
    ∃ id target, (((empty .immediate).run filesAndSession).findChild ⟨.bare, .immediate⟩
        (Tree.compoundName "DFS" "TMP") false).answer = .ok (some id) ∧
      (((empty .immediate).run filesAndSession).findChild ⟨.bare, .immediate⟩
        (Tree.compoundName "DFS" "TMP") false).after.tree.locate?
          [Text.lower "DFS", Text.lower "TMP"] = some target ∧
      (((empty .immediate).run filesAndSession).findChild ⟨.bare, .immediate⟩
        (Tree.compoundName "DFS" "TMP") false).after.tree.follow id = target := by
  have opened : ((empty .immediate).run filesAndSession).sessions[0]? =
      some ⟨.bare, .immediate⟩ := rfl
  have regular : ¬Text.SigmaAtDot "DFS" "TMP" := Text.not_sigmaAtDot (by decide) (by decide)
  have regular' : ¬Text.SigmaAtDot "dfs" "tmp" := Text.not_sigmaAtDot (by decide) (by decide)
  have outer : Text.lower "dfs" = Text.lower "DFS" := by decide +kernel
  have inner : Text.lower "tmp" = Text.lower "TMP" := by decide +kernel
  have serves : ((empty .immediate).run filesAndSession).registry.enabled? "DFS" =
      some (.described 0 "dfs" ⟨[("tmp", .empty)], [], none⟩ 0 (.unreachable "dfs")) := by
    rw [← Registry.enabled?_lower, ← outer]
    rfl
  have offers : (Connector.described 0 "dfs" ⟨[("tmp", .empty)], [], none⟩ 0
      (.unreachable "dfs")).Offers "TMP" := by
    refine ⟨0, "dfs", _, _, "tmp", .empty, rfl, List.mem_singleton_self _, inner, ?_⟩
    intro entry hm
    obtain rfl := List.mem_singleton.mp hm
    rfl
  have dotless : Undotted "TMP" := by decide
  obtain ⟨spellings, found⟩ :=
    compoundName_ignores_case rfl rfl unfailing_filesAndSession opened regular rfl false
  exact ⟨((spellings outer inner).2 regular' rfl false).1, found serves offers dotless (Or.inl rfl)⟩

/-- A connector whose name ends in a capital sigma, with one schema. -/
def streets : List Operation :=
  [.register (.described 0 "ΟΔΟΣ" ⟨[("Χ", .empty)], [], none⟩ 0 (.unreachable "ΟΔΟΣ")) true,
    .openSession none]

/-- The schema is found under its compound name in small letters, but not as its parts are
spelled. -/
theorem streets_missed :
    Text.lower "ΟΔΟΣ" = Text.lower "οδος" ∧ Text.lower "Χ" = Text.lower "χ" ∧
      Undotted "ΟΔΟΣ" ∧ Undotted "Χ" ∧
      (∀ name ∈ ["ΟΔΟΣ.Χ", "οδος.χ"],
        ((empty .immediate).run streets).aliasTarget? ⟨.bare, .immediate⟩ name = none) ∧
      (((empty .immediate).run streets).findChild ⟨.bare, .immediate⟩
        (Tree.compoundName "ΟΔΟΣ" "Χ") false).answer = .ok none ∧
      (((empty .immediate).run streets).findChild ⟨.bare, .immediate⟩
        (Tree.compoundName "οδος" "χ") false).answer = .ok (some 3) := by
  decide +kernel

end Catalog

end FederatedCatalog
