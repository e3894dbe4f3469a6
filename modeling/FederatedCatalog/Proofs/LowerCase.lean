import FederatedCatalog.Text.Casing

namespace FederatedCatalog.Text

/-- A character that lowering leaves alone wherever it stands. -/
def IsLower (c : Char) : Prop :=
  c ≠ 'Σ' ∧ c ≠ 'İ' ∧ lowerPoint c.toNat caseRuns = c.toNat

theorem isLower_dot : IsLower '.' :=
  ⟨by decide, by decide, by decide +kernel⟩

def IsLowered (s : String) : Prop :=
  ∀ c ∈ s.toList, IsLower c

/-- Whether no run starts from one of the code points `first`, `first + stride`, … up to `last`. -/
def isClear (first last stride : Nat) : List CaseRun → Bool
  | [] => true
  | run :: rest =>
    last < run.first
      || (run.last < first
          || (run.stride = 2 && (stride = 2 || first = last) && (first + run.first) % 2 = 1))
        && isClear first last stride rest

/-- Whether the images of a run are code points of characters that lowering leaves alone, none of
them a dot. -/
def CaseRun.isSettled (run : CaseRun) : Bool :=
  let last := run.image + (run.last - run.first)
  isClear run.image last run.stride caseRuns && '.'.toNat < run.image
    && (last < 'İ'.toNat || 'İ'.toNat < run.image)
    && (last < 0xD800 || (0xDFFF < run.image && last < 0x110000))

theorem caseRuns_settled : caseRuns.all CaseRun.isSettled = true := by
  decide +kernel

theorem lowerPoint_of_isClear {first last stride k : Nat} {runs : List CaseRun}
    (clear : isClear first last stride runs = true) (hk : first + k ≤ last)
    (hs : k % stride = 0) : lowerPoint (first + k) runs = first + k := by
  induction runs with
  | nil => rfl
  | cons run rest ih =>
    unfold isClear at clear
    unfold lowerPoint
    split
    next => rfl
    next hfirst =>
      have hrest : isClear first last stride rest = true := by
        rcases Bool.or_eq_true_iff.mp clear with h | h
        · have := of_decide_eq_true h
          omega
        · exact (Bool.and_eq_true_iff.mp h).2
      split
      next hin =>
        exfalso
        rcases Bool.or_eq_true_iff.mp clear with h | h
        · have := of_decide_eq_true h
          omega
        · rcases Bool.or_eq_true_iff.mp (Bool.and_eq_true_iff.mp h).1 with h | h
          · have := of_decide_eq_true h
            omega
          · simp only [Bool.and_eq_true, Bool.or_eq_true, decide_eq_true_eq] at h
            obtain ⟨⟨htwo, hstep⟩, hodd⟩ := h
            rw [htwo] at hin
            rcases hstep with rfl | hone
            · omega
            · omega
      next => exact ih hrest

theorem lowerPoint_eq_or_mem (c : Nat) (runs : List CaseRun) :
    lowerPoint c runs = c ∨ ∃ run ∈ runs, run.first ≤ c ∧ c ≤ run.last ∧
      (c - run.first) % run.stride = 0 ∧ lowerPoint c runs = run.image + (c - run.first) := by
  induction runs with
  | nil => exact Or.inl rfl
  | cons run rest ih =>
    unfold lowerPoint
    split
    next => exact Or.inl rfl
    next hfirst =>
      split
      next hin => exact Or.inr ⟨run, by simp, by omega, hin.1, hin.2, rfl⟩
      next =>
        rcases ih with h | ⟨found, hm, h⟩
        · exact Or.inl h
        · exact Or.inr ⟨found, by simp [hm], h⟩

theorem toNat_ofNat {n : Nat} (h : n.isValidChar) : (Char.ofNat n).toNat = n := by
  rw [Char.ofNat, dif_pos h]
  rfl

theorem isLower_ofNat_lowerPoint {c : Char} (hs : c ≠ 'Σ') (hi : c ≠ 'İ') :
    IsLower (Char.ofNat (lowerPoint c.toNat caseRuns)) := by
  rcases lowerPoint_eq_or_mem c.toNat caseRuns with h | ⟨run, hm, hfirst, hlast, hstep, h⟩
  · rw [h, Char.ofNat_toNat]
    exact ⟨hs, hi, h⟩
  · have settled := List.all_eq_true.mp caseRuns_settled run hm
    simp only [CaseRun.isSettled, Bool.and_eq_true, Bool.or_eq_true, decide_eq_true_eq] at settled
    obtain ⟨⟨⟨clear, _⟩, hdotted⟩, hvalid⟩ := settled
    have hfix := lowerPoint_of_isClear clear (k := c.toNat - run.first) (by omega) hstep
    rw [← h] at hfix
    have hchar : (lowerPoint c.toNat caseRuns).isValidChar := by
      unfold Nat.isValidChar
      omega
    have hcode := toNat_ofNat hchar
    refine ⟨?_, ?_, by rw [hcode]; exact hfix⟩
    · intro eq
      have code : lowerPoint c.toNat caseRuns = 'Σ'.toNat := by rw [← hcode, eq]
      rw [code] at hfix
      exact absurd hfix (by decide +kernel)
    · intro eq
      have code : lowerPoint c.toNat caseRuns = 'İ'.toNat := by rw [← hcode, eq]
      omega

theorem isLower_of_mem_lowerChar {before after : List Char} {c x : Char}
    (h : x ∈ lowerChar before c after) : IsLower x := by
  unfold lowerChar at h
  split at h
  next =>
    have hx : x = 'ς' ∨ x = 'σ' := by
      split at h
      · exact Or.inl (List.mem_singleton.mp h)
      · exact Or.inr (List.mem_singleton.mp h)
    rcases hx with rfl | rfl
    · exact ⟨by decide, by decide, by decide +kernel⟩
    · exact ⟨by decide, by decide, by decide +kernel⟩
  next hs =>
    split at h
    next =>
      rcases List.mem_cons.mp h with rfl | h
      · exact ⟨by decide, by decide, by decide +kernel⟩
      · rw [List.mem_singleton.mp h]
        exact ⟨by decide, by decide, by decide +kernel⟩
    next hi =>
      rw [List.mem_singleton.mp h]
      exact isLower_ofNat_lowerPoint hs hi

theorem lowerChar_of_isLower {c : Char} (before after : List Char) (h : IsLower c) :
    lowerChar before c after = [c] := by
  simp [lowerChar, h.1, h.2.1, h.2.2, Char.ofNat_toNat]

theorem isLower_of_mem_lowerFrom {before s : List Char} {x : Char}
    (h : x ∈ lowerFrom before s) : IsLower x := by
  induction s generalizing before with
  | nil => simp [lowerFrom] at h
  | cons c after ih =>
    rcases List.mem_append.mp h with h | h
    · exact isLower_of_mem_lowerChar h
    · exact ih h

theorem lowerFrom_of_isLower {s : List Char} (before : List Char) (h : ∀ c ∈ s, IsLower c) :
    lowerFrom before s = s := by
  induction s generalizing before with
  | nil => rfl
  | cons c after ih =>
    rw [lowerFrom, lowerChar_of_isLower before after (h c (by simp)),
      ih (c :: before) (fun x hx => h x (by simp [hx]))]
    rfl

theorem isLowered_lower (s : String) : IsLowered (lower s) := by
  intro c hc
  rw [lower, String.toList_ofList] at hc
  exact isLower_of_mem_lowerFrom hc

theorem IsLowered.lower_eq {s : String} (h : IsLowered s) : lower s = s := by
  rw [lower, lowerFrom_of_isLower [] h, String.ofList_toList]

theorem isLowered_iff {s : String} : IsLowered s ↔ lower s = s := by
  constructor
  · exact IsLowered.lower_eq
  · intro h
    rw [← h]
    exact isLowered_lower s

@[simp] theorem lower_lower (s : String) : lower (lower s) = lower s :=
  (isLowered_lower s).lower_eq

theorem dot_mem_lowerChar {before after : List Char} {c : Char} :
    '.' ∈ lowerChar before c after ↔ c = '.' := by
  constructor
  · intro h
    unfold lowerChar at h
    split at h
    next => split at h <;> exact absurd (List.mem_singleton.mp h) (by decide)
    next =>
      split at h
      next => exact absurd h (by decide)
      next =>
        have eq := List.mem_singleton.mp h
        rcases lowerPoint_eq_or_mem c.toNat caseRuns with same | ⟨run, hm, _, _, _, moved⟩
        · rw [same, Char.ofNat_toNat] at eq
          exact eq.symm
        · have settled := List.all_eq_true.mp caseRuns_settled run hm
          simp only [CaseRun.isSettled, Bool.and_eq_true, Bool.or_eq_true, decide_eq_true_eq]
            at settled
          obtain ⟨⟨⟨_, hdot⟩, _⟩, hvalid⟩ := settled
          have hchar : (lowerPoint c.toNat caseRuns).isValidChar := by
            unfold Nat.isValidChar
            omega
          have code := congrArg Char.toNat eq
          rw [toNat_ofNat hchar] at code
          omega
  · rintro rfl
    simp [lowerChar_of_isLower before after isLower_dot]

theorem count_dot_lowerChar (before after : List Char) (c : Char) :
    (lowerChar before c after).count '.' = [c].count '.' := by
  by_cases hc : c = '.'
  · subst hc
    rw [lowerChar_of_isLower before after isLower_dot]
  · rw [List.count_eq_zero.mpr (hc ∘ dot_mem_lowerChar.mp),
      List.count_eq_zero.mpr (by simpa using Ne.symm hc)]

theorem count_dot_lower (s : String) : (lower s).toList.count '.' = s.toList.count '.' := by
  have h : ∀ t before : List Char, (lowerFrom before t).count '.' = t.count '.' := by
    intro t
    induction t with
    | nil => simp [lowerFrom]
    | cons c after ih =>
      intro before
      rw [lowerFrom, List.count_append, ih, count_dot_lowerChar, ← List.count_append]
      rfl
  rw [lower, String.toList_ofList, h]

theorem dot_mem_lower {s : String} : '.' ∈ (lower s).toList ↔ '.' ∈ s.toList := by
  rw [← List.count_pos_iff, count_dot_lower, List.count_pos_iff]

end FederatedCatalog.Text
