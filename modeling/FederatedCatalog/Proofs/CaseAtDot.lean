import FederatedCatalog.Proofs.DottedName
import Mathlib.Data.List.TakeWhile

namespace FederatedCatalog.Text

/-- A text in lower case between the text before it, read backwards, and the text after it. -/
def lowerBetween (before : List Char) : List Char → List Char → List Char
  | [], _ => []
  | c :: s, after => lowerChar before c (s ++ after) ++ lowerBetween (c :: before) s after

theorem lowerFrom_append (before s after : List Char) : lowerFrom before (s ++ after) =
    lowerBetween before s after ++ lowerFrom (s.reverse ++ before) after := by
  induction s generalizing before with
  | nil => rfl
  | cons c s ih => simp [lowerFrom, lowerBetween, ih]

theorem lowerBetween_nil (before s : List Char) : lowerBetween before s [] = lowerFrom before s := by
  have h := lowerFrom_append before s []
  rw [List.append_nil] at h
  rw [h, lowerFrom, List.append_nil]

theorem length_lowerChar (before before' : List Char) (c : Char) (after after' : List Char) :
    (lowerChar before c after).length = (lowerChar before' c after').length := by
  unfold lowerChar
  split
  next => rfl
  next => split <;> rfl

theorem length_lowerBetween (before before' s after after' : List Char) :
    (lowerBetween before s after).length = (lowerBetween before' s after').length := by
  induction s generalizing before before' with
  | nil => rfl
  | cons c s ih =>
    rw [lowerBetween, lowerBetween, List.length_append, List.length_append,
      ih (c :: before) (c :: before'), length_lowerChar]

theorem lowerBetween_eq_iff {before before' s after after' : List Char} :
    lowerBetween before s after = lowerBetween before' s after' ↔
      ∀ p c q, s = p ++ c :: q → lowerChar (p.reverse ++ before) c (q ++ after) =
        lowerChar (p.reverse ++ before') c (q ++ after') := by
  induction s generalizing before before' with
  | nil => simp [lowerBetween]
  | cons first s ih =>
    rw [lowerBetween, lowerBetween]
    constructor
    · intro h p c q hs
      obtain ⟨hfirst, hrest⟩ := List.append_inj h (length_lowerChar _ _ _ _ _)
      cases p with
      | nil =>
        obtain ⟨rfl, rfl⟩ := List.cons.inj hs
        exact hfirst
      | cons other p =>
        obtain ⟨rfl, rfl⟩ := List.cons.inj hs
        simpa using ih.mp hrest p c q rfl
    · intro h
      have hfirst : lowerChar before first (s ++ after) = lowerChar before' first (s ++ after') :=
        h [] first s rfl
      rw [hfirst, List.append_cancel_left_eq, ih]
      rintro p c q rfl
      simpa using h (first :: p) c q rfl

theorem meetsCased_of_ignorable {s : List Char} (h : ∀ c ∈ s, isCaseIgnorable c = true) :
    meetsCased s = false := by
  rw [meetsCased, List.dropWhile_eq_nil_iff.mpr h]

theorem meetsCased_append_dot {s : List Char} (h : ∀ c ∈ s, isCaseIgnorable c = true)
    (t : List Char) : meetsCased (s ++ '.' :: t) = meetsCased t := by
  have dot : isCaseIgnorable '.' = true := by decide +kernel
  rw [meetsCased, List.dropWhile_append, List.dropWhile_eq_nil_iff.mpr h, List.isEmpty_nil,
    if_pos rfl, List.dropWhile_cons_of_pos dot, meetsCased]

theorem meetsCased_append {s : List Char} (h : ¬∀ c ∈ s, isCaseIgnorable c = true)
    (t : List Char) : meetsCased (s ++ t) = meetsCased s := by
  obtain ⟨c, rest, hs⟩ := List.exists_cons_of_ne_nil (mt List.dropWhile_eq_nil_iff.mp h)
  rw [meetsCased, List.dropWhile_append, hs, meetsCased, hs]
  rfl

theorem lowerChar_dot_after (before : List Char) (c : Char) (after t : List Char) :
    lowerChar before c (after ++ '.' :: t) = lowerChar before c after ↔
      ¬(c = 'Σ' ∧ (∀ x ∈ after, isCaseIgnorable x = true) ∧ meetsCased before = true ∧
        meetsCased t = true) := by
  unfold lowerChar
  by_cases hc : c = 'Σ'
  · rw [if_pos hc, if_pos hc]
    by_cases hafter : ∀ x ∈ after, isCaseIgnorable x = true
    · rw [meetsCased_append_dot hafter, meetsCased_of_ignorable hafter, and_iff_right hc,
        and_iff_right hafter]
      cases meetsCased before <;> cases meetsCased t <;> simp
    · simp [meetsCased_append hafter, hafter]
  · simp [hc]

theorem lowerChar_dot_before (before u : List Char) (c : Char) (after : List Char) :
    lowerChar (before ++ '.' :: u) c after = lowerChar before c after ↔
      ¬(c = 'Σ' ∧ (∀ x ∈ before, isCaseIgnorable x = true) ∧ meetsCased u = true ∧
        meetsCased after = false) := by
  unfold lowerChar
  by_cases hc : c = 'Σ'
  · rw [if_pos hc, if_pos hc]
    by_cases hbefore : ∀ x ∈ before, isCaseIgnorable x = true
    · rw [meetsCased_append_dot hbefore, meetsCased_of_ignorable hbefore, and_iff_right hc,
        and_iff_right hbefore]
      cases meetsCased u <;> cases meetsCased after <;> simp
    · simp [meetsCased_append hbefore, hbefore]
  · simp [hc]

/-- A capital sigma behind a cased letter ends the text, but for marks and signs. -/
def EndsInSigma (s : List Char) : Prop :=
  ∃ before after, s = before ++ 'Σ' :: after ∧ (∀ c ∈ after, isCaseIgnorable c = true) ∧
    meetsCased before.reverse = true

/-- A capital sigma with no cased letter behind it begins the text, but for marks and signs. -/
def BeginsWithSigma (s : List Char) : Prop :=
  ∃ before after, s = before ++ 'Σ' :: after ∧ (∀ c ∈ before, isCaseIgnorable c = true) ∧
    meetsCased after = false

/-- Of two names with a dot between them one has a capital sigma at the dot, and the other has a
cased letter there. -/
def SigmaAtDot (outer inner : String) : Prop :=
  EndsInSigma outer.toList ∧ meetsCased inner.toList = true ∨
    BeginsWithSigma inner.toList ∧ meetsCased outer.toList.reverse = true

theorem not_sigmaAtDot {outer inner : String} (ho : 'Σ' ∉ outer.toList)
    (hi : 'Σ' ∉ inner.toList) : ¬SigmaAtDot outer inner := by
  rintro (⟨⟨before, after, heq, _⟩, _⟩ | ⟨⟨before, after, heq, _⟩, _⟩)
  · exact ho (by simp [heq])
  · exact hi (by simp [heq])

theorem lowerBetween_dot_after {s t : List Char} :
    lowerBetween [] s ('.' :: t) = lowerBetween [] s [] ↔
      ¬(EndsInSigma s ∧ meetsCased t = true) := by
  simp only [lowerBetween_eq_iff, List.append_nil, lowerChar_dot_after]
  constructor
  · rintro h ⟨⟨before, after, hs, hafter, hbefore⟩, ht⟩
    exact h before 'Σ' after hs ⟨rfl, hafter, hbefore, ht⟩
  · rintro h before c after hs ⟨rfl, hafter, hbefore, ht⟩
    exact h ⟨⟨before, after, hs, hafter, hbefore⟩, ht⟩

theorem lowerBetween_dot_before {s u : List Char} :
    lowerBetween ('.' :: u) s [] = lowerBetween [] s [] ↔
      ¬(BeginsWithSigma s ∧ meetsCased u = true) := by
  simp only [lowerBetween_eq_iff, List.append_nil, lowerChar_dot_before, List.mem_reverse]
  constructor
  · rintro h ⟨⟨before, after, hs, hbefore, hafter⟩, hu⟩
    exact h before 'Σ' after hs ⟨rfl, hbefore, hu, hafter⟩
  · rintro h before c after hs ⟨rfl, hbefore, hu, hafter⟩
    exact h ⟨⟨before, after, hs, hbefore, hafter⟩, hu⟩

/-- A compound name in lower case is made of its parts in lower case exactly if there is no capital
sigma at the dot. -/
theorem lower_compoundName_iff (outer inner : String) :
    lower (Tree.compoundName outer inner) = Tree.compoundName (lower outer) (lower inner) ↔
      ¬SigmaAtDot outer inner := by
  have dot : lowerChar outer.toList.reverse '.' inner.toList = ['.'] :=
    lowerChar_of_isLower _ _ isLower_dot
  have whole : (lower (Tree.compoundName outer inner)).toList =
      lowerBetween [] outer.toList ('.' :: inner.toList) ++
        '.' :: lowerBetween ('.' :: outer.toList.reverse) inner.toList [] := by
    rw [lower, String.toList_ofList, Tree.toList_compoundName, lowerFrom_append, lowerFrom,
      List.append_nil, dot, lowerBetween_nil]
    rfl
  have parts : (Tree.compoundName (lower outer) (lower inner)).toList =
      lowerBetween [] outer.toList [] ++ '.' :: lowerBetween [] inner.toList [] := by
    rw [Tree.toList_compoundName, lower, lower, String.toList_ofList, String.toList_ofList,
      lowerBetween_nil, lowerBetween_nil]
  rw [← String.toList_inj, whole, parts, SigmaAtDot, not_or, ← lowerBetween_dot_after,
    ← lowerBetween_dot_before]
  -- the first parts are of one length, so the dots stand at the same place
  constructor
  · intro h
    obtain ⟨houter, hrest⟩ := List.append_inj h (length_lowerBetween _ _ _ _ _)
    exact ⟨houter, (List.cons.inj hrest).2⟩
  · rintro ⟨houter, hinner⟩
    rw [houter, hinner]

end FederatedCatalog.Text
