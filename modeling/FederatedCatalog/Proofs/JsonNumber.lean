import FederatedCatalog.Json.Reader
import FederatedCatalog.Json.Writer

namespace FederatedCatalog.Json

/-- Digits as they are written: at least one, each below ten. -/
structure Spelled (digits : List Nat) : Prop where
  nonempty : digits ≠ []
  small : ∀ d ∈ digits, d < 10

/-- A number as it is written, without zeros in front of its whole part. -/
structure Numeral.Canonical (numeral : Numeral) : Prop where
  whole : Spelled numeral.whole
  leading : numeral.whole = [0] ∨ numeral.whole.head? ≠ some 0
  fraction : ∀ digits ∈ numeral.fraction?, Spelled digits
  exponent : ∀ exponent ∈ numeral.exponent?, Spelled exponent.2

theorem digit?_digitChar : ∀ d < 10, digit? (Nat.digitChar d) = some d := by decide

/-- Whether digits do not go on with this text. -/
def EndsDigits (s : List Char) : Prop :=
  ∀ c ∈ s.head?, digit? c = none

/-- Whether a number does not go on with this text. -/
def EndsNumber (s : List Char) : Prop :=
  ∀ c ∈ s.head?, digit? c = none ∧ c ≠ '.' ∧ c ≠ 'e' ∧ c ≠ 'E'

theorem EndsNumber.digits {s : List Char} (ends : EndsNumber s) : EndsDigits s :=
  fun c hc => (ends c hc).1

section Numbers

variable {rest : List Char}

theorem readDigits_nil (ends : EndsDigits rest) : readDigits rest = ([], rest) := by
  cases rest with
  | nil => rfl
  | cons c s =>
    have hc : digit? c = none := ends c rfl
    rw [readDigits, hc]

theorem readDigits_write {digits : List Nat} (small : ∀ d ∈ digits, d < 10)
    (ends : EndsDigits rest) : readDigits (writeDigits digits ++ rest) = (digits, rest) := by
  induction digits with
  | nil => exact readDigits_nil ends
  | cons d digits ih =>
    have hd : digit? (Nat.digitChar d) = some d := digit?_digitChar d (small d (by simp))
    have others := ih fun d hm => small d (List.mem_cons_of_mem _ hm)
    show readDigits (Nat.digitChar d :: (writeDigits digits ++ rest)) = _
    rw [readDigits, hd, others]

theorem readWhole_write {digits : List Nat} (spelled : Spelled digits)
    (leading : digits = [0] ∨ digits.head? ≠ some 0) (ends : EndsDigits rest) :
    readWhole (writeDigits digits ++ rest) = some (digits, rest) := by
  rw [readWhole, readDigits_write spelled.small ends]
  split
  next h => exact absurd (congrArg Prod.fst h) spelled.nonempty
  next h =>
    have hdigits := congrArg Prod.fst h
    simp only at hdigits
    rcases leading with eq | hne
    · simp [hdigits] at eq
    · simp [hdigits] at hne
  next => rfl

def writeFraction : Option (List Nat) → List Char
  | none => []
  | some digits => '.' :: writeDigits digits

def writeExponent : Option (Bool × List Nat) → List Char
  | none => []
  | some (negative, digits) => 'e' :: (if negative then ['-'] else []) ++ writeDigits digits

theorem writeNumber_eq (numeral : Numeral) :
    writeNumber numeral = (if numeral.negative then ['-'] else []) ++ writeDigits numeral.whole ++
      writeFraction numeral.fraction? ++ writeExponent numeral.exponent? :=
  rfl

theorem writeDigits_eq_cons {digits : List Nat} (spelled : Spelled digits) :
    ∃ d < 10, ∃ s, writeDigits digits = Nat.digitChar d :: s := by
  obtain ⟨d, others, rfl⟩ := List.exists_cons_of_ne_nil spelled.nonempty
  exact ⟨d, spelled.small d (by simp), _, rfl⟩

theorem digitChar_ne {d : Nat} (hd : d < 10) {c : Char} (hc : digit? c = none) :
    Nat.digitChar d ≠ c := by
  intro eq
  have := digit?_digitChar d hd
  rw [eq, hc] at this
  cases this

theorem readSign_write {digits : List Nat} (spelled : Spelled digits) (negative : Bool) :
    readSign ((if negative then ['-'] else []) ++ writeDigits digits ++ rest) =
      (negative, writeDigits digits ++ rest) := by
  cases negative with
  | true => rfl
  | false =>
    obtain ⟨d, hd, s, eq⟩ := writeDigits_eq_cons spelled
    rw [if_neg Bool.false_ne_true, List.nil_append, eq, readSign.eq_def]
    split
    next h => exact absurd (List.head_eq_of_cons_eq h) (digitChar_ne hd rfl)
    next h => exact absurd (List.head_eq_of_cons_eq h) (digitChar_ne hd rfl)
    next => rfl

theorem readExponent_write {exponent? : Option (Bool × List Nat)}
    (spelled : ∀ exponent ∈ exponent?, Spelled exponent.2) (ends : EndsNumber rest) :
    readExponent (writeExponent exponent? ++ rest) = some (exponent?, rest) := by
  match exponent? with
  | none =>
    cases rest with
    | nil => rfl
    | cons c s =>
      obtain ⟨-, -, small, big⟩ := ends c rfl
      show readExponent (c :: s) = _
      rw [readExponent, if_neg (by simp [small, big])]
  | some (negative, digits) =>
    have hdigits : Spelled digits := spelled _ rfl
    have hread := readDigits_write hdigits.small ends.digits
    show readExponent ('e' :: ((if negative then ['-'] else []) ++ writeDigits digits ++ rest)) = _
    rw [readExponent, if_pos (.inl rfl), readSign_write hdigits]
    simp only [hread]
    split
    next h => exact absurd (congrArg Prod.fst h) hdigits.nonempty
    next h =>
      cases h
      rfl

theorem ends_writeExponent (exponent? : Option (Bool × List Nat)) (ends : EndsNumber rest) :
    ∀ c ∈ (writeExponent exponent? ++ rest).head?, digit? c = none ∧ c ≠ '.' := by
  match exponent? with
  | none => exact fun c hc => ⟨(ends c hc).1, (ends c hc).2.1⟩
  | some (negative, digits) =>
    intro c hc
    obtain rfl : 'e' = c := Option.some.inj hc
    decide

theorem readFraction_write {fraction? : Option (List Nat)}
    (spelled : ∀ digits ∈ fraction?, Spelled digits)
    (ends : ∀ c ∈ rest.head?, digit? c = none ∧ c ≠ '.') :
    readFraction (writeFraction fraction? ++ rest) = some (fraction?, rest) := by
  match fraction? with
  | none =>
    show readFraction rest = _
    rw [readFraction.eq_def]
    split
    next => exact absurd rfl (ends '.' rfl).2
    next => rfl
  | some digits =>
    have hdigits : Spelled digits := spelled _ rfl
    show readFraction ('.' :: (writeDigits digits ++ rest)) = _
    rw [readFraction, readDigits_write hdigits.small fun c hc => (ends c hc).1]
    split
    next h => exact absurd (congrArg Prod.fst h) hdigits.nonempty
    next h =>
      cases h
      rfl

theorem ends_writeFraction (fraction? : Option (List Nat))
    (ends : ∀ c ∈ rest.head?, digit? c = none ∧ c ≠ '.') :
    EndsDigits (writeFraction fraction? ++ rest) := by
  match fraction? with
  | none => exact fun c hc => (ends c hc).1
  | some digits =>
    intro c hc
    obtain rfl : '.' = c := Option.some.inj hc
    decide

theorem readNumber_write {numeral : Numeral} (canonical : numeral.Canonical)
    (ends : EndsNumber rest) : readNumber (writeNumber numeral ++ rest) = some (numeral, rest) := by
  obtain ⟨negative, whole, fraction?, exponent?⟩ := numeral
  have hexponent := ends_writeExponent exponent? ends
  have hwhole : readWhole (writeDigits whole ++
      (writeFraction fraction? ++ (writeExponent exponent? ++ rest))) = some (whole, _) :=
    readWhole_write canonical.whole canonical.leading (ends_writeFraction fraction? hexponent)
  have hfraction : readFraction (writeFraction fraction? ++ (writeExponent exponent? ++ rest)) =
      some (fraction?, _) := readFraction_write canonical.fraction hexponent
  have hlast : readExponent (writeExponent exponent? ++ rest) = some (exponent?, rest) :=
    readExponent_write canonical.exponent ends
  rw [writeNumber_eq, List.append_assoc, List.append_assoc, List.append_assoc]
  cases negative with
  | true =>
    show readNumber ('-' :: (writeDigits whole ++ (writeFraction fraction? ++
      (writeExponent exponent? ++ rest)))) = _
    rw [readNumber, hwhole]
    simp only [Option.bind_eq_bind, Option.bind_some, hfraction, hlast]
    rfl
  | false =>
    show readNumber (writeDigits whole ++ (writeFraction fraction? ++
      (writeExponent exponent? ++ rest))) = _
    rw [readNumber, hwhole]
    · simp only [Option.bind_eq_bind, Option.bind_some, hfraction, hlast]
      rfl
    · intro s h
      obtain ⟨d, hd, others, eq⟩ := writeDigits_eq_cons canonical.whole
      rw [eq] at h
      exact digitChar_ne hd rfl (List.head_eq_of_cons_eq h)

end Numbers

namespace Numeral

variable {n : Nat}

theorem small_ofNat (n : Nat) : ∀ d ∈ (ofNat n).whole, d < 10 := by
  intro d hm
  obtain ⟨c, hc, rfl⟩ := List.mem_map.mp hm
  have digit : c.isDigit = true := Nat.isDigit_of_mem_toDigits (by decide) (by decide) hc
  obtain ⟨-, high⟩ : 48 ≤ c.toNat ∧ c.toNat ≤ 57 := by
    simpa [Char.isDigit, UInt32.le_iff_toNat_le] using digit
  have zero : '0'.toNat = 48 := rfl
  omega

theorem nonempty_ofNat (n : Nat) : (ofNat n).whole ≠ [] := by
  intro h
  exact Nat.toDigits_ne_nil (List.map_eq_nil_iff.mp h)

theorem head_ofNat (h : 0 < n) : (ofNat n).whole.head? ≠ some 0 := by
  induction n using Nat.strongRecOn with
  | ind n ih =>
    by_cases small : n < 10
    · have digit : (Nat.digitChar n).toNat = 48 + n := Nat.toNat_digitChar_of_lt_ten small
      have zero : '0'.toNat = 48 := rfl
      simp only [ofNat, Nat.toDigits_of_lt_base small, List.map_cons, List.head?_cons, digit, zero]
      intro eq
      have := Option.some.inj eq
      omega
    · have front := ih (n / 10) (by omega) (by omega)
      have split : (ofNat n).whole = (ofNat (n / 10)).whole ++
          [(Nat.digitChar (n % 10)).toNat - '0'.toNat] := by
        simp [ofNat, Nat.toDigits_of_base_le (by decide : 1 < 10) (Nat.le_of_not_lt small)]
      obtain ⟨d, others, eq⟩ := List.exists_cons_of_ne_nil (nonempty_ofNat (n / 10))
      rw [eq] at front
      rw [split, eq]
      exact front

theorem canonical_ofNat (n : Nat) : (ofNat n).Canonical where
  whole := ⟨nonempty_ofNat n, small_ofNat n⟩
  leading := by
    rcases Nat.eq_zero_or_pos n with rfl | positive
    · exact .inl rfl
    · exact .inr (head_ofNat positive)
  fraction := by simp [ofNat]
  exponent := by simp [ofNat]

theorem digitsValue_ofNat (n : Nat) : digitsValue (ofNat n).whole = n := by
  unfold digitsValue ofNat
  rw [List.foldl_map]
  exact Nat.ofDigitChars_ten_toDigits

theorem nat?_ofNat (n : Nat) : (ofNat n).nat? = some n :=
  congrArg some (digitsValue_ofNat n)

theorem le_digits (digits : List Nat) (value : Nat) :
    value ≤ digits.foldl (fun value digit => 10 * value + digit) value := by
  induction digits generalizing value with
  | nil => exact Nat.le.refl
  | cons digit rest ih =>
    have step := ih (10 * value + digit)
    rw [List.foldl_cons]
    omega

theorem readWhole_fits {digits : List Nat} {value : Nat}
    (fits : digits.foldl (fun value digit => 10 * value + digit) value ≤ significandLimit) :
    readWhole value digits = (digits.foldl (fun value digit => 10 * value + digit) value, 0) := by
  induction digits generalizing value with
  | nil => rfl
  | cons digit rest ih =>
    rw [List.foldl_cons] at fits ⊢
    have first : 10 * value + digit ≤ significandLimit := Nat.le_trans (le_digits rest _) fits
    rw [readWhole, if_pos first, ih fits]

theorem roundBits_le (positive : 0 < n) : roundBits n ≤ 2 * n := by
  unfold roundBits
  have unit : Nat.pow 2 (Nat.log2 n + 1 - 53) ≤ n := by
    calc Nat.pow 2 (Nat.log2 n + 1 - 53) ≤ Nat.pow 2 (Nat.log2 n) :=
          Nat.pow_le_pow_right (by decide) (by omega)
      _ ≤ n := Nat.log2_self_le (by omega)
  have low : n / Nat.pow 2 (Nat.log2 n + 1 - 53) * Nat.pow 2 (Nat.log2 n + 1 - 53) ≤ n :=
    Nat.div_mul_le_self _ _
  simp only
  split
  · omega
  · rw [Nat.add_mul, Nat.one_mul]
    omega

theorem inRange_ofNat (h : n < UInt64.size) : (ofNat n).inRange = true := by
  have fits : digitsValue (ofNat n).whole ≤ significandLimit := by
    rw [digitsValue_ofNat]
    unfold significandLimit
    omega
  have whole : readWhole 0 (ofNat n).whole = (n, 0) := by
    rw [readWhole_fits fits]
    exact congrArg (·, 0) (digitsValue_ofNat n)
  have unscaled : inRange (ofNat n) = (n = 0 || (0 : Int) < 0 ||
      ((0 : Int) ≤ 308 && roundBits n * roundBits (Nat.pow 10 0) < overflow)) := by
    unfold inRange
    rw [whole]
    rfl
  rw [unscaled]
  rcases Nat.eq_zero_or_pos n with rfl | positive
  · rfl
  · have rounded := roundBits_le positive
    have one : roundBits (Nat.pow 10 0) = 1 := by decide
    have limit : 2 * UInt64.size ≤ overflow := by decide +kernel
    have below : roundBits n < overflow := by omega
    rw [one, Nat.mul_one, decide_eq_true below]
    simp

end Numeral

end FederatedCatalog.Json
