import FederatedCatalog.Path
import FederatedCatalog.Proofs.LowerCase
import FederatedCatalog.Tree.Compound

namespace FederatedCatalog

def Undotted (name : String) : Prop :=
  '.' ∉ name.toList

instance (name : String) : Decidable (Undotted name) :=
  inferInstanceAs (Decidable ('.' ∉ name.toList))

theorem undotted_lower {name : String} : Undotted (Text.lower name) ↔ Undotted name :=
  not_congr Text.dot_mem_lower

namespace Path

theorem pieces_ne_nil (s : List Char) : pieces s ≠ [] := by
  cases s with
  | nil => simp [pieces]
  | cons c s =>
    unfold pieces
    split
    next => simp
    next => split <;> simp

theorem pieces_of_not_mem {s : List Char} (h : '.' ∉ s) : pieces s = [s] := by
  induction s with
  | nil => rfl
  | cons c s ih =>
    have hc : c ≠ '.' := fun eq => h (by simp [eq])
    have hs := ih (fun hm => h (List.mem_cons_of_mem c hm))
    simp [pieces, hc, hs]

theorem pieces_append_dot {s : List Char} (t : List Char) (h : '.' ∉ s) :
    pieces (s ++ '.' :: t) = s :: pieces t := by
  induction s with
  | nil => simp [pieces]
  | cons c s ih =>
    have hc : c ≠ '.' := fun eq => h (by simp [eq])
    have hs := ih (fun hm => h (List.mem_cons_of_mem c hm))
    simp [pieces, hc, hs]

theorem pieces_eq_cons {s piece : List Char} {rest : List (List Char)}
    (h : pieces s = piece :: rest) :
    '.' ∉ piece ∧ (s = piece ∧ rest = [] ∨ ∃ t, s = piece ++ '.' :: t ∧ pieces t = rest) := by
  induction s generalizing piece with
  | nil =>
    obtain ⟨rfl, rfl⟩ := List.cons.inj h
    exact ⟨by simp, Or.inl ⟨rfl, rfl⟩⟩
  | cons c s ih =>
    unfold pieces at h
    split at h
    next hc =>
      obtain ⟨rfl, rfl⟩ := List.cons.inj h
      exact ⟨by simp, Or.inr ⟨s, by simp [hc], rfl⟩⟩
    next hc =>
      split at h
      next hs => exact absurd hs (pieces_ne_nil s)
      next first others hs =>
        obtain ⟨rfl, rfl⟩ := List.cons.inj h
        obtain ⟨hfirst, hshape⟩ := ih hs
        refine ⟨by simp [Ne.symm hc, hfirst], ?_⟩
        rcases hshape with ⟨rfl, rfl⟩ | ⟨t, rfl, ht⟩
        · exact Or.inl ⟨rfl, rfl⟩
        · exact Or.inr ⟨t, rfl, ht⟩

end Path

namespace Tree

theorem toList_compoundName (outer inner : String) :
    (compoundName outer inner).toList = outer.toList ++ '.' :: inner.toList := by
  simp [compoundName, String.toList_append]

theorem not_undotted_compoundName (outer inner : String) :
    ¬Undotted (compoundName outer inner) := by
  simp [Undotted, toList_compoundName]

theorem dotted_compoundName {outer inner : String} (ho : Undotted outer) (hi : Undotted inner) :
    Path.dotted (compoundName outer inner) = [outer, inner] := by
  simp [Path.dotted, toList_compoundName, Path.pieces_append_dot _ ho, Path.pieces_of_not_mem hi]

theorem eq_compoundName_of_dotted {name outer inner : String}
    (h : Path.dotted name = [outer, inner]) :
    name = compoundName outer inner ∧ Undotted outer ∧ Undotted inner := by
  obtain ⟨first, rest, hp, rfl, hrest⟩ := List.map_eq_cons_iff.mp h
  obtain ⟨second, last, rfl, rfl, hlast⟩ := List.map_eq_cons_iff.mp hrest
  obtain rfl := List.map_eq_nil_iff.mp hlast
  obtain ⟨hfirst, ⟨_, hnil⟩ | ⟨t, hs, ht⟩⟩ := Path.pieces_eq_cons hp
  · exact absurd hnil (by simp)
  · obtain ⟨hsecond, ⟨rfl, _⟩ | ⟨u, _, hu⟩⟩ := Path.pieces_eq_cons ht
    · refine ⟨?_, by simpa [Undotted] using hfirst, by simpa [Undotted] using hsecond⟩
      rw [← String.toList_inj, toList_compoundName]
      simpa using hs
    · exact absurd hu (Path.pieces_ne_nil u)

theorem compoundName_inj {outer inner outer' inner' : String} (ho : Undotted outer)
    (ho' : Undotted outer') (h : compoundName outer inner = compoundName outer' inner') :
    outer = outer' ∧ inner = inner' := by
  have hs := congrArg String.toList h
  rw [toList_compoundName, toList_compoundName] at hs
  have hp := congrArg Path.pieces hs
  rw [Path.pieces_append_dot _ ho, Path.pieces_append_dot _ ho'] at hp
  have hout : outer = outer' := String.toList_inj.mp (List.cons.inj hp).1
  subst hout
  have hin := List.append_cancel_left hs
  exact ⟨rfl, String.toList_inj.mp (List.cons.inj hin).2⟩

theorem lower_compoundName {outer inner : String} (ho : Text.lower outer = outer)
    (hi : Text.lower inner = inner) :
    Text.lower (compoundName outer inner) = compoundName outer inner := by
  rw [← Text.isLowered_iff] at ho hi ⊢
  intro c hc
  rw [toList_compoundName, List.mem_append, List.mem_cons] at hc
  rcases hc with hc | rfl | hc
  · exact ho c hc
  · exact Text.isLower_dot
  · exact hi c hc

theorem lower_parts {name outer inner : String}
    (hname : Text.lower name = compoundName outer inner) :
    Text.lower outer = outer ∧ Text.lower inner = inner := by
  have h := Text.isLowered_lower name
  rw [hname] at h
  constructor
  · rw [← Text.isLowered_iff]
    intro c hc
    exact h c (by simp [toList_compoundName, hc])
  · rw [← Text.isLowered_iff]
    intro c hc
    exact h c (by simp [toList_compoundName, hc])

end Tree

end FederatedCatalog
