import FederatedCatalog.Proofs.OwnSchema
import FederatedCatalog.Proofs.Stability

namespace FederatedCatalog.Catalog

section Asked

variable {catalog : Catalog} {family : Nat → Connector} {number : Nat} {session : Session}
  {question : Question} {serial : Nat}

theorem free_of_called
    (told : catalog.registry.Holds fun connector => connector = family connector.serial)
    (opened : catalog.sessions[number]? = some session) (sound : session.tree.Sound)
    (called : .called serial ∈ (catalog.ask number question).2.1) :
    session.tree.child? Tree.root (family serial).name = none := by
  rw [ask_eq opened] at called
  have uncalled := catalog.called_not_mem_state session serial
  obtain ⟨_, _, name, connector, rfl, lowered, free, serves, _⟩ :=
    (catalog.ask_course sound question).of_called uncalled called
  obtain ⟨hname, hconnector⟩ := told.enabled? serves
  rw [← hconnector, ← Tree.child?_lower, ← hname, lowered]
  exact free

theorem cached_of_own
    (told : catalog.registry.Holds fun connector => connector = family connector.serial)
    (opened : catalog.sessions[number]? = some session) (sound : session.tree.Sound) {call : Nat}
    (called : .called serial ∈ (catalog.ask number question).2.1)
    (last : (catalog.ask number question).2.2.calls.of serial = call + 1)
    (succeeded : ((family serial).attempt call).failure? = none)
    (own : (family serial).AddsOwn call) : ∃ later id,
      (catalog.ask number question).2.2.sessions[number]? = some later ∧ later.tree.Sound ∧
      later.tree.child? Tree.root (family serial).name = some id := by
  rw [ask_eq opened] at called last
  have uncalled := catalog.called_not_mem_state session serial
  have course := catalog.ask_course sound question
  obtain ⟨mid, gains, same⟩ := course.gains sound told uncalled called last succeeded
  obtain ⟨id, hid⟩ := own.locate?_name sound gains
  have sound' := (sound.of_grown gains.grown).of_grown same.grown
  refine ⟨_, id, ask_session opened question, sound', ?_⟩
  rw [Tree.child?_root sound']
  exact same.grown.keeps.locate? hid

theorem cached_of_registered
    (described : catalog.registry.Holds fun connector =>
      connector.Described ∧ connector = family connector.serial)
    (opened : catalog.sessions[number]? = some session) (sound : session.tree.Sound) {call : Nat}
    (called : .called serial ∈ (catalog.ask number question).2.1)
    (last : (catalog.ask number question).2.2.calls.of serial = call + 1)
    (succeeded : ((family serial).attempt call).failure? = none) : ∃ later id,
      (catalog.ask number question).2.2.sessions[number]? = some later ∧ later.tree.Sound ∧
      later.tree.child? Tree.root (family serial).name = some id := by
  have told : catalog.registry.Holds fun connector => connector = family connector.serial :=
    described.mono fun _ h => h.2
  refine cached_of_own told opened sound called last succeeded ?_
  rw [ask_eq opened] at called
  obtain ⟨_, _, _, connector, rfl, _, _, serves, _⟩ := (catalog.ask_course sound question).of_called
    (catalog.called_not_mem_state session serial) called
  obtain ⟨_, hdescribed, hconnector⟩ := described.enabled? serves
  rw [← hconnector] at succeeded ⊢
  exact hdescribed.selfNamed call succeeded

end Asked

/-- Once a connector has registered for a session, the session calls no connector of its name any
more, whatever it is asked for and whatever becomes of the connector and the aliases. `family` has
the connectors by their serial numbers, and `call` is the last call that was made. -/
theorem registers_once {start : Catalog} (empty : start.registry = .empty)
    (fresh : start.sessions = #[]) {family : Nat → Connector} {before later : List Operation}
    (told : ∀ operation ∈ before ++ later, operation.Brings fun connector =>
      connector.Described ∧ connector = family connector.serial)
    {number : Nat} {session : Session}
    (opened : (start.run before).sessions[number]? = some session) {question : Question}
    {serial call : Nat} (called : .called serial ∈ ((start.run before).ask number question).2.1)
    (last : ((start.run before).ask number question).2.2.calls.of serial = call + 1)
    (succeeded : ((family serial).attempt call).failure? = none) (again : Question) {other : Nat}
    (named : Text.lower (family other).name = Text.lower (family serial).name) :
    .called other ∉
      ((((start.run before).ask number question).2.2.run later).ask number again).2.1 := by
  obtain ⟨described, sessions⟩ := run_brings empty fresh fun operation hm =>
    told operation (List.mem_append_left later hm)
  have asked : ((start.run before).perform (.ask number question)).2.2.registry.Holds
      fun connector => connector.Described ∧ connector = family connector.serial :=
    perform_registry Registry.lasting_holds described sessions trivial
  have described' := run_registry Registry.lasting_holds asked
    (sessions.perform_sound (.ask number question)) fun operation hm =>
      told operation (List.mem_append_right before hm)
  obtain ⟨loaded, id, hloaded, sound, cached⟩ :=
    cached_of_registered described opened (sessions opened).1 called last succeeded
  obtain ⟨grown, hgrown, _, growth⟩ := run_session later hloaded sound
  have soundGrown := sound.of_grown growth
  intro calledAgain
  have free := free_of_called (described'.mono fun _ h => h.2) hgrown soundGrown calledAgain
  rw [← Tree.child?_lower, named, Tree.child?_lower,
    growth.keeps.child? sound soundGrown cached] at free
  cases free

/-- A connector of files that fails once. -/
def flakyFiles : Connector :=
  .described 0 "DFS" ⟨[("tmp", .empty)], [], none⟩ 1 (.unreachable "DFS")

def otherFiles : Connector :=
  .described 1 "Dfs" ⟨[("x", .empty)], [], none⟩ 0 (.unreachable "Dfs")

def flakyAndSession : List Operation :=
  [.register flakyFiles true, .openSession (some { Settings.immediate with retryAttempts := 1 })]

/-- One connector takes the other's place, and an alias leads to a schema that it has. -/
def replaced : List Operation :=
  [.remove "dfs", .register otherFiles true, .addAlias .namespaces none "quick" "`Dfs.X`"]

/-- The connector that took the place is not called. -/
theorem replaced_not_called :
    .called 0 ∈ (((empty .immediate).run flakyAndSession).ask 0 (.child "dfs.tmp" false)).2.1 ∧
    .called 1 ∉ (((((empty .immediate).run flakyAndSession).ask 0 (.child "dfs.tmp" false)).2.2.run
      replaced).ask 0 (.path ⟨"quick", []⟩ false)).2.1 := by
  have told : ∀ operation ∈ flakyAndSession ++ replaced, operation.Brings fun connector =>
      connector.Described ∧
        connector = if connector.serial = 0 then flakyFiles else otherFiles := by
    intro operation hm
    simp only [flakyAndSession, replaced, List.cons_append, List.nil_append, List.mem_cons,
      List.not_mem_nil, or_false] at hm
    rcases hm with rfl | rfl | rfl | rfl | rfl
    · exact ⟨⟨_, _, _, _, _, rfl⟩, rfl⟩
    · trivial
    · trivial
    · exact ⟨⟨_, _, _, _, _, rfl⟩, rfl⟩
    · trivial
  have opened : ((empty .immediate).run flakyAndSession).sessions[0]? =
      some ⟨.bare, { Settings.immediate with retryAttempts := 1 }⟩ := rfl
  have called : .called 0 ∈
      (((empty .immediate).run flakyAndSession).ask 0 (.child "dfs.tmp" false)).2.1 := by
    decide +kernel
  have last : (((empty .immediate).run flakyAndSession).ask 0
      (.child "dfs.tmp" false)).2.2.calls.of 0 = 1 + 1 := by
    decide +kernel
  refine ⟨called, ?_⟩
  exact @registers_once _ rfl rfl (fun serial => if serial = 0 then flakyFiles else otherFiles)
    flakyAndSession replaced told 0 _ opened _ 0 1 called last rfl (.path ⟨"quick", []⟩ false) 1
    (by decide +kernel)

end FederatedCatalog.Catalog
